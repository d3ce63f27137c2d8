import FtpControl.Proofs.Channel.Attended
import FtpControl.Proofs.Endpoint.RoundTrip
import FtpControl.Proofs.Probe.Commands
import FtpControl.Proofs.Reply.Stream
import FtpControl.Session

/-!
# What a client remembers

Every call of a client that comes to a result or to a fault of the control engine adds one
entry to the end of the history, and the caller gets what the engine came to. Two calls are
lost: one whose command cannot be masked, and a negotiation refused with a code below 100,
since such a code is no longer one when it has become a number.
-/

namespace FtpControl

open Effect Live

variable {α : Type}

deriving instance DecidableEq for Answer

/-! ## Replies put together again -/

theorem Reply.exists_make_iff {z : Int} {text : String} :
    (∃ reply, make (toString z) text = .ok reply) ↔ 100 ≤ z ∧ z < 1000 := by
  have hmake : (∃ reply, make (toString z) text = .ok reply) ↔
      ∃ code, ReplyCode.ofList? (toString z).toList = some code := by
    unfold make ofParts
    cases ReplyCode.ofList? (toString z).toList with
    | none => simp
    | some code => simp
  rw [hmake, ReplyCode.exists_ofList?_iff]
  -- A sign is no digit, and a natural number has three of them from 100 to 999.
  cases z with
  | ofNat n =>
    have hlist : (toString (Int.ofNat n)).toList = Nat.toDigits 10 n := by
      simp [Int.repr, toString]
    have hthree := Nat.length_toDigits_le_iff (b := 10) (n := n) (k := 3) (by decide) (by decide)
    have htwo := Nat.length_toDigits_le_iff (b := 10) (n := n) (k := 2) (by decide) (by decide)
    have hdigits : ∀ c ∈ Nat.toDigits 10 n, Text.isAsciiDigit c = true :=
      fun c hc => Text.isAsciiDigit_of_mem_toDigits hc
    rw [hlist, and_iff_left hdigits, Int.ofNat_eq_natCast]
    omega
  | negSucc n =>
    have hlist : (toString (Int.negSucc n)).toList = '-' :: Nat.toDigits 10 (n + 1) := by
      simp [Int.repr, toString]
    rw [hlist]
    apply iff_of_false
    · rintro ⟨-, hdigits⟩
      have hsign := hdigits '-' List.mem_cons_self
      contradiction
    · omega

theorem Reply.replyCode_of_make {code text : String} {f : Fault} (h : make code text = .error f) :
    f.replyCode = -1 := by
  unfold make ofParts at h
  split at h
  · cases h
  · cases h
    rfl

/-- A fault whose code, as a number, no longer has three places. -/
def Fault.Mangled (f : Fault) : Prop :=
  f.replyText? ≠ none ∧ f.replyCode ≠ -1 ∧ ¬ (100 ≤ f.replyCode ∧ f.replyCode < 1000)

instance (f : Fault) : Decidable f.Mangled :=
  inferInstanceAs (Decidable (_ ∧ _ ∧ _))

/-- Among refusals these are the ones whose code begins with a zero. -/
theorem Fault.mangled_refused {reply : Reply} :
    (refused reply).Mangled ↔ reply.code.first = 0 := by
  have hcode : (refused reply).replyCode = (reply.code.value : Int) := rfl
  have htext : (refused reply).replyText? ≠ none := by simp [replyText?]
  unfold Mangled
  rw [hcode, and_iff_right htext, Fin.ext_iff]
  simp only [ReplyCode.value, Fin.val_zero]
  omega

namespace Client

theorem carriedReply_of_mangled {f : Fault} (h : f.Mangled) :
    ∃ g, carriedReply f = .error g ∧ g ≠ f := by
  obtain ⟨htext, hcode, hplaces⟩ := h
  obtain ⟨text, htext⟩ := Option.ne_none_iff_exists'.1 htext
  unfold carriedReply
  rw [htext]
  dsimp only
  rw [if_neg hcode]
  cases hmake : Reply.make (toString f.replyCode) text with
  | ok reply => exact absurd (Reply.exists_make_iff.1 ⟨reply, hmake⟩) hplaces
  | error g =>
    refine ⟨g, rfl, ?_⟩
    rintro rfl
    rw [Reply.replyCode_of_make hmake] at hcode
    contradiction

theorem carriedReply_of_not_mangled {f : Fault} (h : ¬ f.Mangled) :
    ∃ reply, carriedReply f = .ok reply := by
  unfold carriedReply
  cases htext : f.replyText? with
  | none => exact ⟨none, rfl⟩
  | some text =>
    dsimp only
    by_cases hcode : f.replyCode = -1
    · rw [if_pos hcode]
      exact ⟨none, rfl⟩
    · have hplaces : 100 ≤ f.replyCode ∧ f.replyCode < 1000 := by
        by_contra hplaces
        exact h ⟨by simp [htext], hcode, hplaces⟩
      obtain ⟨reply, hmake⟩ := Reply.exists_make_iff.2 hplaces
      rw [if_neg hcode, hmake]
      exact ⟨some reply, rfl⟩

/-! ## Adding to the history -/

/-- One more entry at the end of a history, with this error. -/
def Added (error : Option Fault) (before after : List Entry) : Prop :=
  ∃ entry, after = before ++ [entry] ∧ entry.error = error

/-- A result or a fault adds an entry, and other failures do not. -/
def Logged (raised : Except Failure α) (before after : List Entry) : Prop :=
  match raised with
  | .ok _ => Added none before after
  | .error (.fault f) => Added (some f) before after
  | .error _ => after = before

theorem logged_of_not_isFault {e : Failure} (he : ¬ e.IsFault) (history : List Entry) :
    Logged (.error e : Except Failure α) history history := by
  cases e with
  | fault f => exact absurd ⟨f, rfl⟩ he
  | _ => rfl

theorem run_onChannel {m : Op Channel α} {s : Live Client} {r : Except Failure α}
    {u : Live Channel} (h : m.run ⟨s.self.channel, s.net⟩ = (r, u)) :
    (onChannel m).run s = (r, ⟨{ s.self with channel := u.self }, u.net⟩) := by
  rw [onChannel, Live.focus, run_zoom, h]

/-- Behind a failure of the channel only the handler runs. -/
theorem run_rescued {β : Type} {m : Op Channel α} {handler : Failure → Op Client α}
    {next : α → Op Client β} {s t : Live Client} {u : Live Channel} {e e' : Failure}
    (h : m.run ⟨s.self.channel, s.net⟩ = (.error e, u))
    (hhandler : (handler e).run ⟨{ s.self with channel := u.self }, u.net⟩ = (.error e', t)) :
    (rescue (onChannel m) handler >>= next).run s = (.error e', t) := by
  apply run_bind_error
  rw [run_rescue_error (run_onChannel h), hhandler]

variable {command shown : String}

theorem run_record (h : Command.masked command = .ok shown) (reply : Option Reply)
    (error : Option Fault) (s : Live Client) :
    (record command reply error).run s =
      (.ok (), ⟨{ s.self with history := s.self.history ++ [⟨s.net.ticks, shown, reply, error⟩] },
        { s.net with ticks := s.net.ticks + 1 }⟩) := by
  unfold record
  rw [h]
  rfl

/-- A fault is recorded and passed on. -/
theorem run_pass (h : Command.masked command = .ok shown) (reply : Option Reply) (f : Fault)
    (s : Live Client) :
    ∃ t, (do record command reply (some f); fail (.fault f) : Op Client α).run s =
        (.error (.fault f), t) ∧
      t.self.history = s.self.history ++ [⟨s.net.ticks, shown, reply, some f⟩] := by
  rw [run_bind_ok (run_record h reply (some f) s)]
  exact ⟨_, rfl, rfl⟩

/-- The masking fails, and its failure takes the place of the fault. -/
theorem run_pass_cramped (h : Command.Cramped command) (reply : Option Reply) (f : Fault)
    (s : Live Client) :
    ∃ t, (do record command reply (some f); fail (.fault f) : Op Client α).run s =
        (.error .tooShort, t) ∧ t.self.history = s.self.history := by
  have hmasked : Command.masked command = .error .tooShort :=
    Command.masked_eq_error_iff.2 ⟨h, rfl⟩
  unfold record
  rw [hmasked]
  exact ⟨_, rfl, rfl⟩

/-! ## Calls and what becomes of them -/

/-- The calls that bear on the history. -/
inductive Call where
  | execute (command : String) (expected : Option (List String))
  | openData (mode : DataMode)
  | clearHistory

def perform : Call → Op Client Answer
  | .execute command expected => .reply <$> execute command expected
  | .openData mode => .negotiated <$> openData mode
  | .clearHistory => do
    clearHistory
    return .nothing

/-- The reply, if its code is one of those expected or any will do. -/
def verdict (expected : Option (List String)) (reply : Reply) : Except Failure Reply :=
  match expected with
  | some codes => Channel.validate codes reply
  | none => .ok reply

/-- What the control engine does for a call. -/
def Call.engine : Call → Op Channel Answer
  | .execute command expected => do
    let reply ← Channel.send command
    return .reply (← ofExcept (verdict expected reply))
  | .openData mode => .negotiated <$> Negotiation.run mode
  | .clearHistory => return .nothing

/-- One call: what the engine came to, what the caller got, and the history before and behind
it. -/
structure Turn where
  call : Call
  raised : Except Failure Answer
  outcome : Except Failure Answer
  before : List Entry
  after : List Entry

def turn (call : Call) (s : Live Client) : Turn where
  call
  raised := (call.engine.run ⟨s.self.channel, s.net⟩).1
  outcome := ((perform call).run s).1
  before := s.self.history
  after := ((perform call).run s).2.self.history

/-- Calls made one after the other, also behind one that fails. -/
def turns : List Call → Live Client → List Turn
  | [], _ => []
  | call :: rest, s => turn call s :: turns rest ((perform call).run s).2

namespace Turn

/-- The caller gets what the engine came to, and a result or a fault is the one new entry. -/
def Recorded (t : Turn) : Prop :=
  t.outcome = t.raised ∧
    match t.call with
    | .clearHistory => t.after = []
    | _ => Logged t.raised t.before t.after

/-- A fault for which no entry can be made. -/
def Lost (t : Turn) : Prop :=
  ∃ f, t.raised = .error (.fault f) ∧
    match t.call with
    | .execute command _ => Command.Cramped command
    | .openData _ => f.Mangled
    | .clearHistory => False

/-- Another failure takes the place of that of the engine, and the history stays as it was. -/
def Dropped (t : Turn) : Prop :=
  ∃ e, t.outcome = .error e ∧ t.raised ≠ .error e ∧ t.after = t.before

/-- A call is recorded, or lost and dropped. -/
def Lawful (t : Turn) : Prop :=
  (¬ t.Lost → t.Recorded) ∧ (t.Lost → t.Dropped)

variable {t : Turn}

theorem lawful_of_recorded (h : t.Recorded) (hkept : ¬ t.Lost) : t.Lawful :=
  ⟨fun _ => h, fun hlost => absurd hlost hkept⟩

theorem lawful_of_lost (h : t.Lost) (hdropped : t.Dropped) : t.Lawful :=
  ⟨fun hkept => absurd h hkept, fun _ => hdropped⟩

theorem not_lost_of_ok {answer : Answer} (h : t.raised = .ok answer) : ¬ t.Lost := by
  rintro ⟨f, hf, -⟩
  rw [h] at hf
  cases hf

theorem not_lost_of_not_isFault {e : Failure} (h : t.raised = .error e) (he : ¬ e.IsFault) :
    ¬ t.Lost := by
  rintro ⟨f, hf, -⟩
  rw [h] at hf
  cases hf
  exact he ⟨f, rfl⟩

end Turn

/-- A command is answered only when it could be masked. -/
theorem masked_of_send {s u : Live Channel} {reply : Reply}
    (h : (Channel.send command).run s = (.ok reply, u)) :
    ∃ shown, Command.masked command = .ok shown := by
  have hsend : Meets (fun _ => True) (Channel.send command)
      (fun _ _ => ∃ shown, Command.masked command = .ok shown) fun _ _ => True := by
    refine .skip fun _ => .given (fun _ _ _ _ => trivial) fun shown hshown => ?_
    exact (Meets.trivial _ _).yields fun _ _ _ => ⟨shown, hshown⟩
  exact hsend.of_ok trivial h

/-- The command of a data connection can be masked. -/
theorem masked_of_negotiation {mode : DataMode} {s u : Live Channel} {d : DataConnection}
    (h : (Negotiation.run mode).run s = (.ok d, u)) :
    ∃ shown, Command.masked d.command = .ok shown := by
  -- Only the last step matters: it names `PORT` with an endpoint, or `PASV`.
  have announced : ∀ n host, Meets (fun _ => True) (Negotiation.announce n host)
      (fun d _ => ∃ shown, Command.masked d.command = .ok shown) fun _ _ => True := by
    intro n host
    refine .skip fun _ => .skip fun _ => ?_
    refine .skip fun own => .skip fun _ => ?_
    cases Endpoint.ofAddress host own.port with
    | error f => exact .failed fun _ _ => trivial
    | ok e =>
      refine .value (.skip fun _ => .skip fun _ => ?_)
      exact .skip fun _ => .pure fun _ _ => ⟨_, Endpoint.masked_portCommand e⟩
  have negotiated : Meets (fun _ => True) (Negotiation.run mode)
      (fun d _ => ∃ shown, Command.masked d.command = .ok shown) fun _ _ => True := by
    cases mode with
    | active =>
      refine .skip fun host => .skip fun n => ?_
      refine .rescue ((announced n host).start fun _ _ => trivial) fun e => ?_
      refine .skip fun _ => ?_
      split
      · exact .fail fun _ _ => trivial
      · exact .fail fun _ _ => trivial
    | passive =>
      refine .skip fun _ => .skip fun _ => ?_
      refine .skip fun _ => .skip fun _ => ?_
      refine .skip fun _ => .skip fun _ => ?_
      exact .skip fun _ =>
        .pure fun _ _ => ⟨_, DataMode.masked_verb .passive⟩
  exact negotiated.of_ok trivial h

/-! ## Commands -/

section Execute

variable {s : Live Client} {u : Live Channel} {expected : Option (List String)}

theorem run_execute_error (expected : Option (List String)) {e : Failure} (he : ¬ e.IsFault)
    (h : (Channel.send command).run ⟨s.self.channel, s.net⟩ = (.error e, u)) :
    ∃ t, (execute command expected).run s = (.error e, t) ∧ t.self.history = s.self.history := by
  refine ⟨⟨{ s.self with channel := u.self }, u.net⟩, ?_, rfl⟩
  apply run_rescued h
  split
  · exact absurd ⟨_, rfl⟩ he
  · rfl

theorem run_execute_fault (expected : Option (List String)) {f : Fault}
    (hshown : Command.masked command = .ok shown)
    (h : (Channel.send command).run ⟨s.self.channel, s.net⟩ = (.error (.fault f), u)) :
    ∃ t, (execute command expected).run s = (.error (.fault f), t) ∧
      Added (some f) s.self.history t.self.history := by
  obtain ⟨t, hpass, hhistory⟩ := run_pass (α := Reply) hshown none f
    ⟨{ s.self with channel := u.self }, u.net⟩
  exact ⟨t, run_rescued h hpass, _, hhistory, rfl⟩

theorem run_execute_cramped (expected : Option (List String)) {f : Fault}
    (hcramped : Command.Cramped command)
    (h : (Channel.send command).run ⟨s.self.channel, s.net⟩ = (.error (.fault f), u)) :
    ∃ t, (execute command expected).run s = (.error .tooShort, t) ∧
      t.self.history = s.self.history := by
  obtain ⟨t, hpass, hhistory⟩ := run_pass_cramped (α := Reply) hcramped none f
    ⟨{ s.self with channel := u.self }, u.net⟩
  exact ⟨t, run_rescued h hpass, hhistory⟩

/-- A welcome answer is recorded and returned. -/
theorem run_execute_welcome {reply : Reply} (hshown : Command.masked command = .ok shown)
    (h : (Channel.send command).run ⟨s.self.channel, s.net⟩ = (.ok reply, u))
    (hverdict : verdict expected reply = .ok reply) :
    (execute command expected).run s =
      (.ok reply, ⟨⟨u.self, s.self.history ++ [⟨u.net.ticks, shown, some reply, none⟩]⟩,
        { u.net with ticks := u.net.ticks + 1 }⟩) := by
  have hrecord := run_record hshown (some reply) none ⟨{ s.self with channel := u.self }, u.net⟩
  unfold execute
  rw [run_bind_ok (run_rescue_ok (run_onChannel h))]
  cases expected with
  | none =>
    rw [Option.map_none]
    exact run_bind_ok hrecord
  | some codes =>
    rw [Option.map_some, show Channel.validate codes reply = .ok reply from hverdict]
    exact run_bind_ok hrecord

/-- An unwelcome answer is recorded with its fault. -/
theorem run_execute_unwelcome {reply : Reply} {f : Fault}
    (h : (Channel.send command).run ⟨s.self.channel, s.net⟩ = (.ok reply, u))
    (hverdict : verdict expected reply = .error (.fault f)) :
    ∃ t, (execute command expected).run s = (.error (.fault f), t) ∧
      Added (some f) s.self.history t.self.history := by
  obtain ⟨shown, hshown⟩ := masked_of_send h
  have hrecord := run_record hshown (some reply) (some f) ⟨{ s.self with channel := u.self }, u.net⟩
  refine ⟨⟨⟨u.self, s.self.history ++ [⟨u.net.ticks, shown, some reply, some f⟩]⟩,
    { u.net with ticks := u.net.ticks + 1 }⟩, ?_, _, rfl, rfl⟩
  unfold execute
  rw [run_bind_ok (run_rescue_ok (run_onChannel h))]
  cases expected with
  | none => cases hverdict
  | some codes =>
    rw [Option.map_some, show Channel.validate codes reply = .error (.fault f) from hverdict]
    dsimp only
    rw [run_bind_ok hrecord]
    rfl

theorem verdict_cases (expected : Option (List String)) (reply : Reply) :
    verdict expected reply = .ok reply ∨
      verdict expected reply = .error (.fault (.refused reply)) := by
  cases expected with
  | none => exact .inl rfl
  | some codes => exact ite_eq_or_eq _ _ _

theorem turn_execute {raised : Except Failure Answer} {r : Except Failure Reply}
    {t : Live Client}
    (hraised : (Call.engine (.execute command expected)).run ⟨s.self.channel, s.net⟩ = (raised, u))
    (hrun : (execute command expected).run s = (r, t)) :
    turn (.execute command expected) s =
      ⟨.execute command expected, raised, r.map .reply, s.self.history, t.self.history⟩ := by
  simp only [turn, perform, run_map, hraised, hrun]

theorem not_cramped_of_masked_ok (h : Command.masked command = .ok shown) :
    ¬ Command.Cramped command := by
  intro hcramped
  rw [Command.masked_eq_error_iff.2 ⟨hcramped, rfl⟩] at h
  cases h

theorem lawful_execute_of_error {e : Failure} (expected : Option (List String))
    (hsend : (Channel.send command).run ⟨s.self.channel, s.net⟩ = (.error e, u)) :
    (turn (.execute command expected) s).Lawful := by
  have hraised : (Call.engine (.execute command expected)).run ⟨s.self.channel, s.net⟩ =
      (.error e, u) := run_bind_error hsend
  by_cases he : e.IsFault
  · obtain ⟨f, rfl⟩ := he
    by_cases hcramped : Command.Cramped command
    · obtain ⟨t, hrun, hhistory⟩ := run_execute_cramped expected hcramped hsend
      rw [turn_execute hraised hrun]
      exact Turn.lawful_of_lost ⟨f, rfl, hcramped⟩ ⟨.tooShort, rfl, by simp, hhistory⟩
    · obtain ⟨shown, hshown⟩ := Command.masked_of_not_cramped hcramped
      obtain ⟨t, hrun, hadded⟩ := run_execute_fault expected hshown hsend
      rw [turn_execute hraised hrun]
      apply Turn.lawful_of_recorded ⟨rfl, hadded⟩
      rintro ⟨g, -, h⟩
      exact hcramped h
  · obtain ⟨t, hrun, hhistory⟩ := run_execute_error expected he hsend
    rw [turn_execute hraised hrun, hhistory]
    apply Turn.lawful_of_recorded ⟨rfl, logged_of_not_isFault he _⟩
    exact Turn.not_lost_of_not_isFault rfl he

theorem lawful_execute_of_reply {reply : Reply} (expected : Option (List String))
    (hsend : (Channel.send command).run ⟨s.self.channel, s.net⟩ = (.ok reply, u)) :
    (turn (.execute command expected) s).Lawful := by
  have hraised : (Call.engine (.execute command expected)).run ⟨s.self.channel, s.net⟩ =
      ((verdict expected reply).map .reply, u) := by
    unfold Call.engine
    rw [run_bind_ok hsend]
    cases verdict expected reply <;> rfl
  obtain ⟨shown, hshown⟩ := masked_of_send hsend
  obtain hverdict | hverdict := verdict_cases expected reply
  · rw [turn_execute hraised (run_execute_welcome hshown hsend hverdict), hverdict]
    have hadded : Added none s.self.history
        (s.self.history ++ [⟨u.net.ticks, shown, some reply, none⟩]) := ⟨_, rfl, rfl⟩
    exact Turn.lawful_of_recorded ⟨rfl, hadded⟩ (Turn.not_lost_of_ok rfl)
  · obtain ⟨t, hrun, hadded⟩ := run_execute_unwelcome hsend hverdict
    rw [turn_execute hraised hrun, hverdict]
    apply Turn.lawful_of_recorded ⟨rfl, hadded⟩
    rintro ⟨f, -, h⟩
    exact not_cramped_of_masked_ok hshown h

theorem lawful_execute (command : String) (expected : Option (List String)) (s : Live Client) :
    (turn (.execute command expected) s).Lawful := by
  rcases hsend : (Channel.send command).run ⟨s.self.channel, s.net⟩ with ⟨e | reply, u⟩
  · exact lawful_execute_of_error expected hsend
  · exact lawful_execute_of_reply expected hsend

end Execute

/-! ## Negotiations -/

section OpenData

variable {mode : DataMode} {s : Live Client} {u : Live Channel}

theorem run_openData_error {e : Failure} (he : ¬ e.IsFault)
    (h : (Negotiation.run mode).run ⟨s.self.channel, s.net⟩ = (.error e, u)) :
    ∃ t, (openData mode).run s = (.error e, t) ∧ t.self.history = s.self.history := by
  refine ⟨⟨{ s.self with channel := u.self }, u.net⟩, ?_, rfl⟩
  apply run_rescued h
  split
  · exact absurd ⟨_, rfl⟩ he
  · rfl

/-- A fault is recorded with the reply that it carries. -/
theorem run_openData_fault {f : Fault} {reply : Option Reply} (hreply : carriedReply f = .ok reply)
    (h : (Negotiation.run mode).run ⟨s.self.channel, s.net⟩ = (.error (.fault f), u)) :
    ∃ t, (openData mode).run s = (.error (.fault f), t) ∧
      t.self.history = s.self.history ++ [⟨u.net.ticks, mode.verb, reply, some f⟩] := by
  obtain ⟨t, hpass, hhistory⟩ := run_pass (α := DataConnection) mode.masked_verb reply f
    ⟨{ s.self with channel := u.self }, u.net⟩
  refine ⟨t, ?_, hhistory⟩
  apply run_rescued h
  dsimp only
  rw [hreply]
  exact hpass

theorem run_openData_mangled {f g : Fault} (hmangled : carriedReply f = .error g)
    (h : (Negotiation.run mode).run ⟨s.self.channel, s.net⟩ = (.error (.fault f), u)) :
    ∃ t, (openData mode).run s = (.error (.fault g), t) ∧ t.self.history = s.self.history := by
  refine ⟨⟨{ s.self with channel := u.self }, u.net⟩, ?_, rfl⟩
  apply run_rescued h
  dsimp only
  rw [hmangled]
  rfl

theorem run_openData_done {d : DataConnection}
    (h : (Negotiation.run mode).run ⟨s.self.channel, s.net⟩ = (.ok d, u)) :
    ∃ t, (openData mode).run s = (.ok d, t) ∧ Added none s.self.history t.self.history := by
  have hshown : ∃ shown,
      Command.masked (if d.command.isEmpty then mode.verb else d.command) = .ok shown := by
    split_ifs
    · exact ⟨mode.verb, mode.masked_verb⟩
    · exact masked_of_negotiation h
  obtain ⟨shown, hshown⟩ := hshown
  have hrecord := run_record hshown (some d.reply) none ⟨{ s.self with channel := u.self }, u.net⟩
  unfold openData
  rw [run_bind_ok (run_rescue_ok (run_onChannel h)), run_bind_ok hrecord]
  exact ⟨_, rfl, _, rfl, rfl⟩

theorem turn_openData {r r' : Except Failure DataConnection} {t : Live Client}
    (h : (Negotiation.run mode).run ⟨s.self.channel, s.net⟩ = (r, u))
    (hrun : (openData mode).run s = (r', t)) :
    turn (.openData mode) s =
      ⟨.openData mode, r.map .negotiated, r'.map .negotiated, s.self.history,
        t.self.history⟩ := by
  simp only [turn, perform, Call.engine, run_map, h, hrun]

theorem lawful_openData (mode : DataMode) (s : Live Client) :
    (turn (.openData mode) s).Lawful := by
  rcases h : (Negotiation.run mode).run ⟨s.self.channel, s.net⟩ with ⟨e | d, u⟩
  · by_cases he : e.IsFault
    · obtain ⟨f, rfl⟩ := he
      by_cases hmangled : f.Mangled
      · obtain ⟨g, hg, hne⟩ := carriedReply_of_mangled hmangled
        obtain ⟨t, hrun, hhistory⟩ := run_openData_mangled hg h
        rw [turn_openData h hrun]
        apply Turn.lawful_of_lost ⟨f, rfl, hmangled⟩
        refine ⟨.fault g, rfl, ?_, hhistory⟩
        intro heq
        cases heq
        contradiction
      · obtain ⟨reply, hreply⟩ := carriedReply_of_not_mangled hmangled
        obtain ⟨t, hrun, hhistory⟩ := run_openData_fault hreply h
        rw [turn_openData h hrun]
        have hrecorded : Logged (.error (.fault f) : Except Failure Answer) s.self.history
            t.self.history := ⟨_, hhistory, rfl⟩
        apply Turn.lawful_of_recorded ⟨rfl, hrecorded⟩
        rintro ⟨g, hg, hlost⟩
        cases hg
        contradiction
    · obtain ⟨t, hrun, hhistory⟩ := run_openData_error he h
      rw [turn_openData h hrun, hhistory]
      apply Turn.lawful_of_recorded ⟨rfl, logged_of_not_isFault he _⟩
      exact Turn.not_lost_of_not_isFault rfl he
  · obtain ⟨t, hrun, hadded⟩ := run_openData_done h
    rw [turn_openData h hrun]
    exact Turn.lawful_of_recorded ⟨rfl, hadded⟩ (Turn.not_lost_of_ok rfl)

end OpenData

/-! ## Sequences of calls -/

theorem lawful_turn (call : Call) (s : Live Client) : (turn call s).Lawful := by
  cases call with
  | execute command expected => exact lawful_execute command expected s
  | openData mode => exact lawful_openData mode s
  | clearHistory => exact Turn.lawful_of_recorded ⟨rfl, rfl⟩ (Turn.not_lost_of_ok rfl)

/-- Whatever was called before and however the server answers, a call is recorded unless it is
lost, and then what the engine raised does not reach the caller either. -/
theorem recorded_unless_lost {calls : List Call} {s : Live Client} {t : Turn}
    (h : t ∈ turns calls s) : (¬ t.Lost → t.Recorded) ∧ (t.Lost → t.Dropped) := by
  induction calls generalizing s with
  | nil => cases h
  | cons call rest ih =>
    obtain rfl | hrest := List.mem_cons.1 h
    · exact lawful_turn call s
    · exact ih hrest

/-- A client that has connected to a server with these answers. -/
def connected (answers : List String) : Live Client :=
  ((onChannel (Channel.connect ⟨some "ftp.test", 21⟩ 10000)).run ⟨{}, .answering answers⟩).2

/-- The refusal of a negotiation is lost; the command behind it is recorded. -/
theorem recorded_unless_lost_mixed :
    let s := connected ["099 no\r\n", "200 ok\r\n"]
    let refusal := turn (.openData .passive) s
    let noop := turn (.execute "NOOP" none) ((perform (.openData .passive)).run s).2
    (refusal.Lost ∧ refusal.Dropped) ∧ ¬ noop.Lost ∧ noop.Recorded := by
  intro s refusal noop
  have hraised : refusal.raised = .error (.fault (.refused ⟨⟨0, 9, 9⟩, "no"⟩)) := by decide +kernel
  have hlost : refusal.Lost := ⟨_, hraised, Fault.mangled_refused.2 rfl⟩
  have hfree : ¬ Command.Cramped "NOOP" := by decide +kernel
  have hkept : ¬ noop.Lost := by
    rintro ⟨f, -, hcramped⟩
    exact hfree hcramped
  have hfirst : refusal ∈ turns [.openData .passive, .execute "NOOP" none] s :=
    List.mem_cons_self
  have hsecond : noop ∈ turns [.openData .passive, .execute "NOOP" none] s :=
    List.mem_cons_of_mem _ List.mem_cons_self
  exact ⟨⟨hlost, (recorded_unless_lost hfirst).2 hlost⟩, hkept,
    (recorded_unless_lost hsecond).1 hkept⟩

end Client

end FtpControl
