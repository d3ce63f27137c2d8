import FtpControl.Proofs.Text.Quoted
import FtpControl.Settings

/-!
# Settings from the environment

Settings come out of an environment just when no variable is set to a value that it may not
have. Otherwise the first fault found is reported: both numbers are read, then the mode, and
only then are the ranges and the level checked. Every report names the variable at fault but
one: an unknown mode is quoted without saying where it came from.
-/

namespace FtpControl.Settings

/-- The variables whose values are checked. -/
inductive Variable where
  | port
  | timeout
  | mode
  | level
deriving DecidableEq, Repr

/-- A number that is not blank is an integer with the property. -/
def IsNumber (P : Int → Prop) (raw : String) : Prop :=
  Text.trim raw.toList ≠ [] → ∃ n, Text.integer? raw.toList = some n ∧ P n

namespace Variable

def name : Variable → String
  | port => "FTPCTL_PORT"
  | timeout => "FTPCTL_TIMEOUT_MS"
  | mode => "FTPCTL_DATA_MODE"
  | level => "FTPCTL_LOG_LEVEL"

/-- The values that a variable may have. -/
def Accepts : Variable → String → Prop
  | port, raw => IsNumber (fun n => 1 ≤ n ∧ n ≤ 65535) raw
  | timeout, raw => IsNumber (fun n => 0 ≤ n) raw
  | mode, value => ∃ m, DataMode.ofString? value = some m
  | level, value => ∃ l, LogLevel.ofName? (String.ofList (Text.upper value.toList)) = some l

/-- The variable is set, to a value that it may not have. -/
def Invalid (v : Variable) (env : Environment) : Prop :=
  ∃ value, env.lookup v.name = some value ∧ ¬ v.Accepts value

/-- The variable is set, and neither blank nor an integer. -/
def Unread (v : Variable) (env : Environment) : Prop :=
  ∃ raw, env.lookup v.name = some raw ∧ ¬ IsNumber (fun _ => True) raw

/-- The text contains the name of the variable. -/
def NamedIn (v : Variable) (text : String) : Prop := v.name.toList <:+: text.toList

instance (v : Variable) (text : String) : Decidable (v.NamedIn text) :=
  inferInstanceAs (Decidable (_ <:+: _))

end Variable

/-- Settings come out with every value in its range, or the error names a variable that is at
fault. -/
def Accounted (env : Environment) : Prop :=
  (∃ s, ofEnvironment env = .ok s ∧ 1 ≤ s.port ∧ s.port ≤ 65535 ∧ 0 ≤ s.timeoutMillis ∧
      s.dataMode ∈ DataMode.all ∧ s.logLevel ∈ LogLevel.all) ∨
    ∃ (e : BadValue) (v : Variable),
      ofEnvironment env = .error e ∧ v.Invalid env ∧ v.NamedIn e.message

section Numbers

variable {env : Environment} {name : String} {default : Int}

/-- The number that is read has a property, which the default has, just when the variable is
blank or a number that has it. -/
theorem isNumber_iff_of_integer (P : Int → Prop) {n : Int} (hd : P default)
    (h : integer env name default = .ok n) :
    (∀ raw, env.lookup name = some raw → IsNumber P raw) ↔ P n := by
  unfold integer at h
  cases hl : env.lookup name with
  | none =>
    obtain rfl : default = n := by simpa [hl] using h
    simp [hd]
  | some raw =>
    by_cases hblank : Text.trim raw.toList = []
    · obtain rfl : default = n := by simpa [hl, hblank] using h
      simp [IsNumber, hblank, hd]
    · cases hn : Text.integer? raw.toList with
      | none => simp [hl, hblank, hn] at h
      | some m =>
        obtain rfl : m = n := by simpa [hl, hblank, hn] using h
        simp [IsNumber, hblank, hn]

theorem integer_error {e : BadValue} (h : integer env name default = .error e) :
    ∃ raw, env.lookup name = some raw ∧ e = .notAnInteger name raw ∧
      ¬ IsNumber (fun _ => True) raw := by
  unfold integer at h
  cases hl : env.lookup name with
  | none => simp [hl] at h
  | some raw =>
    refine ⟨raw, rfl, ?_⟩
    by_cases hblank : Text.trim raw.toList = []
    · simp [hl, hblank] at h
    · cases hn : Text.integer? raw.toList with
      | none =>
        simp only [hl, hblank, hn, if_false, Except.error.injEq] at h
        simp [h, IsNumber, hblank, hn]
      | some n => simp [hl, hblank, hn] at h

end Numbers

/-! ### What is reported -/

/-- A report and the variable whose fault it is. -/
inductive Refuses (env : Environment) : Variable → BadValue → Prop
  | unread {v : Variable} {raw : String} (number : v = .port ∨ v = .timeout)
      (given : env.lookup v.name = some raw) (unread : ¬ IsNumber (fun _ => True) raw) :
      Refuses env v (.notAnInteger v.name raw)
  | unknown {value : String} (port : ¬ Variable.port.Unread env)
      (timeout : ¬ Variable.timeout.Unread env)
      (given : env.lookup Variable.mode.name = some value)
      (unknown : ¬ Variable.mode.Accepts value) : Refuses env .mode (.unknownMode value)
  | port {n : Int} (mode : ¬ Variable.mode.Invalid env) (invalid : Variable.port.Invalid env) :
      Refuses env .port (.portOutOfRange n)
  | timeout {n : Int} (mode : ¬ Variable.mode.Invalid env)
      (invalid : Variable.timeout.Invalid env) : Refuses env .timeout (.timeoutBelowZero n)
  | level {name : String} (mode : ¬ Variable.mode.Invalid env)
      (invalid : Variable.level.Invalid env) : Refuses env .level (.unknownLevel name)

/-- The two ways in which reading the environment ends. -/
inductive Outcome (env : Environment) : Except BadValue Settings → Prop
  | accepted {s : Settings} (port : 1 ≤ s.port ∧ s.port ≤ 65535)
      (timeout : 0 ≤ s.timeoutMillis) (valid : ∀ v : Variable, ¬ v.Invalid env) :
      Outcome env (.ok s)
  | refused {v : Variable} {e : BadValue} (refuses : Refuses env v e) : Outcome env (.error e)

section Stages

variable {env : Environment}

theorem not_invalid_iff {v : Variable} :
    ¬ v.Invalid env ↔ ∀ value, env.lookup v.name = some value → v.Accepts value := by
  simp [Variable.Invalid]

theorem not_unread_of_integer {v : Variable} {default n : Int}
    (h : integer env v.name default = .ok n) : ¬ v.Unread env := by
  rintro ⟨raw, given, unread⟩
  exact unread ((isNumber_iff_of_integer (fun _ => True) trivial h).mpr trivial raw given)

theorem port_valid_iff {n : Int} (h : integer env "FTPCTL_PORT" Channel.defaultPort = .ok n) :
    ¬ Variable.port.Invalid env ↔ 1 ≤ n ∧ n ≤ 65535 :=
  not_invalid_iff.trans (isNumber_iff_of_integer (fun n => 1 ≤ n ∧ n ≤ 65535) (by decide) h)

theorem timeout_valid_iff {n : Int}
    (h : integer env "FTPCTL_TIMEOUT_MS" Channel.defaultTimeoutMillis = .ok n) :
    ¬ Variable.timeout.Invalid env ↔ 0 ≤ n :=
  not_invalid_iff.trans (isNumber_iff_of_integer (fun n => 0 ≤ n) (by decide) h)

/-- A variable is invalid just when the value in use, its own or a proper default, is refused. -/
theorem invalid_iff_of_default {v : Variable} {default : String} (hd : v.Accepts default) :
    v.Invalid env ↔ ¬ v.Accepts ((env.lookup v.name).getD default) := by
  unfold Variable.Invalid
  cases env.lookup v.name <;> simp [hd]

theorem accepts_passive : Variable.mode.Accepts DataMode.passive.value :=
  ⟨.passive, DataMode.ofString?_value .passive⟩

theorem accepts_info : Variable.level.Accepts LogLevel.info.name :=
  ⟨.info, by decide +kernel⟩

theorem mode_cases (value : String) :
    (∃ m, mode value = .ok m ∧ Variable.mode.Accepts value) ∨
      mode value = .error (.unknownMode value) ∧ ¬ Variable.mode.Accepts value := by
  unfold mode
  cases known : DataMode.ofString? value with
  | none => exact .inr ⟨rfl, by simp [Variable.Accepts, known]⟩
  | some m => exact .inl ⟨m, rfl, m, known⟩

theorem level_cases (name : String) :
    (∃ l, level name = .ok l ∧ Variable.level.Accepts name) ∨
      ∃ shown, level name = .error (.unknownLevel shown) ∧ ¬ Variable.level.Accepts name := by
  unfold level
  dsimp only
  cases known : LogLevel.ofName? (String.ofList (Text.upper name.toList)) with
  | none => exact .inr ⟨_, rfl, by simp [Variable.Accepts, known]⟩
  | some l => exact .inl ⟨l, rfl, l, known⟩

/-- Where both numbers and the mode are read, the ranges and the level decide. -/
theorem outcome_make {port millis : Int} (host : String) (m : DataMode)
    (hport : integer env "FTPCTL_PORT" Channel.defaultPort = .ok port)
    (hmillis : integer env "FTPCTL_TIMEOUT_MS" Channel.defaultTimeoutMillis = .ok millis)
    (hmode : ¬ Variable.mode.Invalid env) :
    Outcome env
      (make host port millis m ((env.lookup "FTPCTL_LOG_LEVEL").getD LogLevel.info.name)) := by
  rw [make]
  by_cases inRange : 1 ≤ port ∧ port ≤ 65535
  · rw [checkPort, if_pos inRange]
    by_cases negative : millis < 0
    · have invalid : Variable.timeout.Invalid env := by
        by_contra valid
        exact absurd ((timeout_valid_iff hmillis).mp valid) (Int.not_le.mpr negative)
      rw [checkTimeout, if_pos negative]
      exact .refused (.timeout hmode invalid)
    · rw [checkTimeout, if_neg negative]
      have invalid_iff : Variable.level.Invalid env ↔ _ := invalid_iff_of_default accepts_info
      rcases level_cases ((env.lookup "FTPCTL_LOG_LEVEL").getD LogLevel.info.name) with
        ⟨l, hlevel, accepts⟩ | ⟨shown, hlevel, refuses⟩
      · have valid : ∀ v : Variable, ¬ v.Invalid env := by
          intro v
          cases v with
          | port => exact (port_valid_iff hport).mpr inRange
          | timeout => exact (timeout_valid_iff hmillis).mpr (Int.not_lt.mp negative)
          | mode => exact hmode
          | level => exact fun invalid => invalid_iff.mp invalid accepts
        rw [hlevel]
        exact .accepted inRange (Int.not_lt.mp negative) valid
      · rw [hlevel]
        exact .refused (.level hmode (invalid_iff.mpr refuses))
  · have invalid : Variable.port.Invalid env := by
      by_contra valid
      exact inRange ((port_valid_iff hport).mp valid)
    rw [checkPort, if_neg inRange]
    exact .refused (.port hmode invalid)

theorem outcome_ofEnvironment (env : Environment) : Outcome env (ofEnvironment env) := by
  rw [ofEnvironment]
  cases hport : integer env "FTPCTL_PORT" Channel.defaultPort with
  | error e =>
    obtain ⟨raw, given, rfl, unread⟩ := integer_error hport
    exact .refused (.unread (v := .port) (.inl rfl) given unread)
  | ok port =>
    cases hmillis : integer env "FTPCTL_TIMEOUT_MS" Channel.defaultTimeoutMillis with
    | error e =>
      obtain ⟨raw, given, rfl, unread⟩ := integer_error hmillis
      exact .refused (.unread (v := .timeout) (.inr rfl) given unread)
    | ok millis =>
      have invalid_iff : Variable.mode.Invalid env ↔ _ := invalid_iff_of_default accepts_passive
      rcases mode_cases ((env.lookup "FTPCTL_DATA_MODE").getD DataMode.passive.value) with
        ⟨m, hmode, accepts⟩ | ⟨hmode, refuses⟩
      · have valid : ¬ Variable.mode.Invalid env := fun invalid => invalid_iff.mp invalid accepts
        rw [hmode]
        exact outcome_make _ m hport hmillis valid
      · obtain ⟨value, given, unknown⟩ := invalid_iff.mpr refuses
        have port_read := not_unread_of_integer (v := .port) hport
        have timeout_read := not_unread_of_integer (v := .timeout) hmillis
        rw [hmode, show env.lookup "FTPCTL_DATA_MODE" = some value from given]
        exact .refused (.unknown port_read timeout_read given unknown)

end Stages

section Reports

variable {env : Environment} {v : Variable} {e : BadValue}

theorem Variable.invalid_of_unread {raw : String} (number : v = .port ∨ v = .timeout)
    (given : env.lookup v.name = some raw) (unread : ¬ IsNumber (fun _ => True) raw) :
    v.Invalid env := by
  refine ⟨raw, given, fun accepts => unread fun hblank => ?_⟩
  rcases number with rfl | rfl
  · obtain ⟨n, hn, -⟩ := accepts hblank
    exact ⟨n, hn, trivial⟩
  · obtain ⟨n, hn, -⟩ := accepts hblank
    exact ⟨n, hn, trivial⟩

/-- What is reported is a fault of the environment. -/
theorem Refuses.invalid (h : Refuses env v e) : v.Invalid env := by
  cases h with
  | unread number given unread => exact Variable.invalid_of_unread number given unread
  | unknown _ _ given unknown => exact ⟨_, given, unknown⟩
  | port _ invalid => exact invalid
  | timeout _ invalid => exact invalid
  | level _ invalid => exact invalid

theorem Variable.namedIn_append {text : String} (h : v.NamedIn text) (more : String) :
    v.NamedIn (text ++ more) := by
  rw [NamedIn, String.toList_append]
  exact h.trans (List.prefix_append _ _).isInfix

/-- Every report but that on the mode starts with the name of its variable. -/
theorem Refuses.namedIn (h : Refuses env v e) (hv : v ≠ .mode) : v.NamedIn e.message := by
  cases h with
  | @unread v raw =>
    have start : v.NamedIn (v.name ++ " must be an integer, got " ++ Text.quoted raw) := by
      rw [String.append_assoc]
      exact Variable.namedIn_append List.infix_rfl _
    exact start
  | unknown => exact absurd rfl hv
  | @port n =>
    have start : Variable.port.NamedIn "FTPCTL_PORT out of range: " := by decide
    exact Variable.namedIn_append start (toString n)
  | @timeout n =>
    have start : Variable.timeout.NamedIn "FTPCTL_TIMEOUT_MS must be >= 0: " := by decide
    exact Variable.namedIn_append start (toString n)
  | @level name =>
    have start : Variable.level.NamedIn
        "FTPCTL_LOG_LEVEL must be one of DEBUG, INFO, WARNING, ERROR, CRITICAL: " := by decide
    exact Variable.namedIn_append start name

/-- The report on the mode names no variable but one that the value itself names. -/
theorem Variable.namedIn_unknownMode_iff (v : Variable) (value : String) :
    v.NamedIn (BadValue.unknownMode value).message ↔ v.NamedIn value := by
  have message : (BadValue.unknownMode value).message =
      "Unknown data connect mode: " ++ Text.quoted value ++
        " (expected 'active' or 'passive')" := rfl
  obtain ⟨rest, hname, plain⟩ :
      ∃ rest, v.name.toList = 'F' :: rest ∧ ('F' :: rest).all Text.isPlain = true := by
    refine ⟨v.name.toList.tail, ?_, ?_⟩ <;> cases v <;> decide
  have front : 'F' ∉ "Unknown data connect mode: ".toList := by decide
  have back : 'F' ∉ " (expected 'active' or 'passive')".toList := by decide
  rw [NamedIn, NamedIn, message, hname, String.toList_append, String.toList_append,
    Text.toList_quoted]
  exact Text.infix_quote_iff (by decide) plain front back value.toList

end Reports

/-- The mode is refused under a value that names no variable at fault, and both numbers have
been read by then. -/
def Unnamed (env : Environment) : Prop :=
  ∃ value, env.lookup Variable.mode.name = some value ∧ ¬ Variable.mode.Accepts value ∧
    ¬ Variable.port.Unread env ∧ ¬ Variable.timeout.Unread env ∧
    ∀ v : Variable, v.Invalid env → ¬ v.NamedIn value

theorem refuses_of_error {env : Environment} {e : BadValue} (h : ofEnvironment env = .error e) :
    ∃ v, Refuses env v e := by
  have outcome := outcome_ofEnvironment env
  rw [h] at outcome
  cases outcome with
  | refused refuses => exact ⟨_, refuses⟩

theorem valid_of_ok {env : Environment} {s : Settings} (h : ofEnvironment env = .ok s) :
    (1 ≤ s.port ∧ s.port ≤ 65535) ∧ 0 ≤ s.timeoutMillis ∧ ∀ v : Variable, ¬ v.Invalid env := by
  have outcome := outcome_ofEnvironment env
  rw [h] at outcome
  cases outcome with
  | accepted port timeout valid => exact ⟨port, timeout, valid⟩

/-- A mode that is refused once both numbers have been read is what is reported. -/
theorem ofEnvironment_eq_unknownMode {env : Environment} {value : String}
    (given : env.lookup Variable.mode.name = some value) (unknown : ¬ Variable.mode.Accepts value)
    (port : ¬ Variable.port.Unread env) (timeout : ¬ Variable.timeout.Unread env) :
    ofEnvironment env = .error (.unknownMode value) := by
  have invalid : Variable.mode.Invalid env := ⟨value, given, unknown⟩
  cases h : ofEnvironment env with
  | ok s => exact absurd invalid ((valid_of_ok h).2.2 .mode)
  | error e =>
    obtain ⟨v, refuses⟩ := refuses_of_error h
    cases refuses with
    | unread number given unread =>
      rcases number with rfl | rfl
      · exact absurd ⟨_, given, unread⟩ port
      · exact absurd ⟨_, given, unread⟩ timeout
    | unknown _ _ given' _ =>
      rw [given, Option.some.injEq] at given'
      rw [given']
    | port mode _ => exact absurd invalid mode
    | timeout mode _ => exact absurd invalid mode
    | level mode _ => exact absurd invalid mode

/-- Settings come out just when no variable is set to a value that it may not have. They are
within their ranges then, and else the report names a variable at fault, unless it is on the
mode and the value refused names none. -/
theorem accounted_iff (env : Environment) :
    ((∃ s, ofEnvironment env = .ok s) ↔ ∀ v : Variable, ¬ v.Invalid env) ∧
      (Accounted env ↔ ¬ Unnamed env) := by
  refine ⟨⟨fun ⟨s, hs⟩ => (valid_of_ok hs).2.2, fun valid => ?_⟩, fun accounted => ?_, fun h => ?_⟩
  · cases h : ofEnvironment env with
    | ok s => exact ⟨s, rfl⟩
    | error e =>
      obtain ⟨v, refuses⟩ := refuses_of_error h
      exact absurd refuses.invalid (valid v)
  · rintro ⟨value, given, unknown, port, timeout, unnamed⟩
    have reported := ofEnvironment_eq_unknownMode given unknown port timeout
    rcases accounted with ⟨s, hs, -⟩ | ⟨e, v, he, invalid, named⟩
    · rw [reported] at hs
      cases hs
    · obtain rfl : .unknownMode value = e := by simpa [reported] using he
      exact unnamed v invalid ((v.namedIn_unknownMode_iff value).mp named)
  · cases he : ofEnvironment env with
    | ok s =>
      obtain ⟨port, timeout, -⟩ := valid_of_ok he
      refine .inl ⟨s, he, port.1, port.2, timeout, ?_, ?_⟩
      · cases s.dataMode <;> decide
      · cases s.logLevel <;> decide
    | error e =>
      obtain ⟨v, refuses⟩ := refuses_of_error he
      by_cases hv : v = .mode
      · subst hv
        cases refuses with
        | unread number => rcases number with h | h <;> cases h
        | @unknown value port timeout given unknown =>
          by_contra unaccounted
          refine h ⟨value, given, unknown, port, timeout, fun v invalid named => unaccounted ?_⟩
          exact .inr ⟨_, v, he, invalid, (v.namedIn_unknownMode_iff value).mpr named⟩
      · exact .inr ⟨e, v, he, refuses.invalid, refuses.namedIn hv⟩

theorem unaccounted_sideways : ¬ Accounted [("FTPCTL_DATA_MODE", "sideways")] := by
  have refused : DataMode.ofString? "sideways" = none := by decide +kernel
  have unnamed : Unnamed [("FTPCTL_DATA_MODE", "sideways")] := by
    refine ⟨"sideways", by decide, by simp [Variable.Accepts, refused], ?_, ?_, fun v _ => ?_⟩
    · simp [Variable.Unread, Variable.name]
    · simp [Variable.Unread, Variable.name]
    · cases v <;> decide
  exact fun accounted => (accounted_iff _).2.mp accounted unnamed

end FtpControl.Settings
