import FtpControl.Proofs.Channel.Rebuffs
import FtpControl.Proofs.Channel.Hearing

/-!
# Logging out

Logging out ends with a closed channel that has closed all it held, whatever the server answers. An
error of the transport is reported as it is, since the channel has been released by then. Any other
outcome of the farewell is reported only if the channel can be closed without an error: the last
error met on closing takes its place.
-/

namespace FtpControl

open Effect Live Reply

/-- What closing these handles has to report, in their order. -/
def Network.closeErrors (net : Network) (handles : List Handle) : List String :=
  handles.filterMap fun h => (net.sockets h).closeError

theorem Network.closeErrors_eq_nil_iff {net : Network} {handles : List Handle} :
    net.closeErrors handles = [] ↔ ∀ h ∈ handles, (net.sockets h).closeError = none :=
  List.filterMap_eq_nil_iff

theorem Network.exists_closeError_iff {net : Network} {handles : List Handle} :
    net.closeErrors handles ≠ [] ↔ ∃ h ∈ handles, (net.sockets h).closeError ≠ none := by
  simp [closeErrors_eq_nil_iff]

namespace Channel

variable {s t : Live Channel}

/-! ## Errors met on closing -/

/-- The last of the errors takes the place of a result. -/
def overtaken (errors : List String) (result : Except Failure Unit) : Except Failure Unit :=
  errors.getLast?.elim result fun why => .error (.fault (.releaseFailed why))

theorem overtaken_eq_error {errors : List String} (h : errors ≠ []) :
    ∃ why, ∀ result, overtaken errors result = .error (.fault (.releaseFailed why)) := by
  refine ⟨errors.getLast h, fun result => ?_⟩
  rw [overtaken, List.getLast?_eq_getLast_of_ne_nil h]
  rfl

theorem overtaken_ok_bind (errors : List String) (result : Except Failure Unit) :
    ((overtaken errors (.ok ())).bind fun _ => result) = overtaken errors result := by
  unfold overtaken
  cases errors.getLast? <;> rfl

/-- Success stands unless something cannot be closed. -/
theorem overtaken_ok_iff {errors : List String} :
    (∃ e, overtaken errors (.ok ()) = .error e) ↔ errors ≠ [] := by
  constructor
  · rintro ⟨e, he⟩ rfl
    cases he
  · intro h
    obtain ⟨why, hwhy⟩ := overtaken_eq_error h
    exact ⟨_, hwhy _⟩

/-- An error that no release reports stands unless something cannot be closed. -/
theorem overtaken_error_iff {errors : List String} {f : Fault} (hf : f.kind = .protocol) :
    overtaken errors (.error (.fault f)) = .error (.fault f) ↔ errors = [] := by
  constructor
  · intro h
    by_contra hne
    obtain ⟨why, hwhy⟩ := overtaken_eq_error hne
    rw [hwhy] at h
    cases h
    cases hf
  · rintro rfl
    rfl

theorem run_closeResource (h : Handle) (net : Network) :
    ∃ net', (closeResource h).run net = (.ok (net.sockets h).closeError, net') ∧
      net'.closeErrors = net.closeErrors := by
  have hsame : ∀ {net' : Network},
      net'.sockets = setAt net.sockets h { net.sockets h with isOpen := false } →
      net'.closeErrors = net.closeErrors := by
    intro net' hsockets
    funext handles
    unfold Network.closeErrors
    congr
    funext k
    rw [hsockets]
    by_cases hk : k = h <;> simp [setAt, hk]
  rw [closeResource, run_bind, run_attempt, Net.run_close]
  cases (net.sockets h).closeError with
  | none => exact ⟨_, rfl, hsame rfl⟩
  | some why =>
    dsimp only
    obtain ⟨logs, hlog⟩ := Net.run_log .channel .error
      s!"Error closing control resource <{h.label}>"
      { net with
        events := net.events ++ [.close h]
        sockets := setAt net.sockets h { net.sockets h with isOpen := false } }
    rw [run_bind_ok hlog]
    exact ⟨_, rfl, hsame rfl⟩

theorem run_closeResources (handles : List Handle) (net : Network) :
    ∃ net', (closeResources handles).run net =
      (.ok (net.closeErrors handles).getLast?, net') := by
  induction handles generalizing net with
  | nil => exact ⟨net, rfl⟩
  | cons h rest ih =>
    obtain ⟨net₁, hfirst, hsame⟩ := run_closeResource h net
    obtain ⟨net₂, hlater⟩ := ih net₁
    refine ⟨net₂, ?_⟩
    rw [closeResources, run_bind_ok hfirst, run_bind_ok hlater, run_pure, hsame]
    unfold Network.closeErrors
    rw [List.filterMap_cons]
    cases (net.sockets h).closeError with
    | none => rw [Option.or_none]
    | some why =>
      rw [List.getLast?_cons]
      cases (rest.filterMap fun h => (net.sockets h).closeError).getLast? <;> rfl

/-- A release reports the last error met. -/
theorem fst_run_release (s : Live Channel) :
    (release.run s).1 = overtaken (s.net.closeErrors s.self.resources) (.ok ()) := by
  obtain ⟨net, hclose⟩ := run_closeResources s.self.resources s.net
  rw [release, run_look, run_bind_ok (run_call hclose), run_bind_ok (run_change _ _)]
  unfold overtaken
  cases s.self.peer <;> cases (s.net.closeErrors s.self.resources).getLast? <;> rfl

/-! ## The farewell -/

theorem run_farewell {outcome : Except Fault Reply}
    (h : Turn.quit.perform.run s = (outcome.mapError .fault, t)) :
    farewell.run s = ((verdict ["221", "200"] outcome).map fun _ => (), t) := by
  cases outcome with
  | error f => exact run_bind_error h
  | ok reply =>
    rw [farewell, run_bind_ok (show (send "QUIT").run s = (.ok reply, t) from h)]
    change _ = ((validate ["221", "200"] reply).map fun _ => (), t)
    cases validate ["221", "200"] reply <;> rfl

/-- A channel that is still connected behind the farewell is released by its end. -/
theorem run_close_of_kept {n : Nat} {line : ControlLine} (h : Kept n line s t)
    (hstate : s.self.state = .connected) :
    (close.run t).1 = overtaken (s.net.closeErrors s.self.resources) (.ok ()) ∧
      (close.run t).2.self = s.self.released := by
  have hclose : close.run t = release.run t := by
    rw [close, run_look, h.self, hstate]
  have hreleased : (release.run t).2.self = t.self.released :=
    keeps_release (R := fun s t => t.self = s.self.released) (fun _ _ ht => ht.1) t
  rw [hclose, hreleased, fst_run_release, h.self]
  unfold Network.closeErrors
  rw [h.sockets]
  exact ⟨rfl, rfl⟩

theorem kind_of_refusal {expected : List String} {outcome : Except Fault Reply} {e : Failure}
    (houtcome : ∀ f, outcome = .error f → f.kind = .protocol)
    (h : verdict expected outcome = .error e) : ∃ f, e = .fault f ∧ f.kind = .protocol := by
  cases outcome with
  | error f =>
    cases h
    exact ⟨f, rfl, houtcome f rfl⟩
  | ok reply => exact ⟨_, validate_error h, rfl⟩

/-- Logging out closes the channel and all that it held, each resource once. An error of the
transport is reported whatever comes of closing. A reply that is malformed or unwelcome is reported
if and only if all can be closed without an error, and a farewell that succeeds makes a success of
logging out on the same condition. -/
theorem parted_of_reachable (hs : Reachable s) (hstate : s.self.state = .connected) :
    let result := (logout.run s).1
    let errors := s.net.closeErrors s.self.resources
    Lost s.self (logout.run s).2 ∧
      (∃ n, s.self.resources = [.writer n, .reader n, .control n] ∧
        (farewell.run s).1 =
          (verdict ["221", "200"] (Turn.quit.outcome (s.net.lines n))).map fun _ => ()) ∧
        ((∃ f, (farewell.run s).1 = .error (.fault f) ∧ f.kind = .io ∧
            result = .error (.fault f)) ∨
          (∃ f, (farewell.run s).1 = .error (.fault f) ∧ f.kind = .protocol ∧
            result = overtaken errors (.error (.fault f)) ∧
              (result = .error (.fault f) ↔
                ∀ h ∈ s.self.resources, (s.net.sockets h).closeError = none)) ∨
          (farewell.run s).1 = .ok () ∧ result = overtaken errors (.ok ()) ∧
            ((∃ e, result = .error e) ↔
              ∃ h ∈ s.self.resources, (s.net.sockets h).closeError ≠ none)) := by
  obtain ⟨n, t, hequipped, hturn, hcases⟩ := run_turn_cases hs.lifecycle hstate .quit
  have hfarewell := run_farewell hturn
  have hresources : s.self.resources = [.writer n, .reader n, .control n] := by
    rw [resources_of_equipped hequipped]
    rfl
  have hlogout : logout.run s = (farewell.ensure close).run s := by
    rw [logout_eq, run_bind_ok (run_requireConnected hstate _)]
  have hparted : (logout.run s).2 = (close.run t).2 := by
    rw [hlogout, snd_run_ensure, hfarewell]
  have hresult : (logout.run s).1 =
      (close.run t).1.bind fun _ =>
        (verdict ["221", "200"] (Turn.quit.outcome (s.net.lines n))).map fun _ => () := by
    rw [hlogout, fst_run_ensure, hfarewell]
  have hlife := (orderly_logout s hs.lifecycle).1
  have hopened := (exchanging_spares.logout s).opened
  obtain ⟨f, hf, hkind, hlost⟩ | ⟨hprotocol, line, -, hkept⟩ := hcases
  -- The channel has been released along with the failed turn, so closing it does nothing.
  · have hclose : close.run t = (.ok (), t) := by
      rw [close, run_look, hlost.self]
      rfl
    rw [hparted, hclose]
    rw [hclose, hf] at hresult
    rw [hf] at hfarewell
    refine ⟨hlost, ⟨n, hresources, by rw [hfarewell, hf]⟩, .inl ⟨f, ?_, hkind, hresult⟩⟩
    rw [hfarewell]
    rfl
  · obtain ⟨hclose, hself⟩ := run_close_of_kept hkept hstate
    have hlost : Lost s.self (logout.run s).2 :=
      lost_of_released hs.lifecycle hstate hlife hopened (hparted ▸ hself)
    rw [hclose, overtaken_ok_bind] at hresult
    rw [hresult, hfarewell]
    refine ⟨hlost, ⟨n, hresources, rfl⟩, .inr ?_⟩
    cases hverdict : verdict ["221", "200"] (Turn.quit.outcome (s.net.lines n)) with
    | error e =>
      obtain ⟨f, rfl, hkind⟩ := kind_of_refusal hprotocol hverdict
      refine .inl ⟨f, rfl, hkind, rfl, ?_⟩
      exact (overtaken_error_iff hkind).trans Network.closeErrors_eq_nil_iff
    | ok reply =>
      refine .inr ⟨rfl, rfl, ?_⟩
      rw [← Network.exists_closeError_iff]
      exact overtaken_ok_iff

/-- A server that greets, does not let its client go, and to which the stream cannot be closed
without an error. -/
def sulkingServer : Network where
  script :=
    { controls := [{
        banner := Text.encodeUtf8 "220 ready\r\n".toList
        exchanges := [{ bytes := Text.encodeUtf8 "500 no\r\n".toList }]
        writerCloseError := some badDescriptor }] }

/-- The channel of a caller who has connected to it. -/
def sulkingVisit : Live Channel :=
  ((Operation.connect ⟨some "ftp.test", 21⟩ 10000).perform.run ⟨{}, sulkingServer⟩).2

theorem reachable_sulkingVisit : Reachable sulkingVisit :=
  .after _ (.start (Ledger.restrict_held _ _))

/-- The stream that cannot be closed is what is reported, and not the server's refusal. -/
theorem parted_of_sulkingVisit :
    sulkingVisit.self.state = .connected ∧ Lost sulkingVisit.self (logout.run sulkingVisit).2 ∧
      (farewell.run sulkingVisit).1 = .error (.fault (.refused ⟨⟨5, 0, 0⟩, "no"⟩)) ∧
        (logout.run sulkingVisit).1 = .error (.fault (.releaseFailed badDescriptor)) := by
  have hstate : sulkingVisit.self.state = .connected := by decide +kernel
  obtain ⟨hlost, -, -⟩ := parted_of_reachable reachable_sulkingVisit hstate
  exact ⟨hstate, hlost, by decide +kernel, by decide +kernel⟩

end Channel

end FtpControl
