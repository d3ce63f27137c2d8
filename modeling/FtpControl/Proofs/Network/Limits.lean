import FtpControl.Proofs.Network.Ledger

/-!
# Time limits of control sockets

The limit of a control socket is set when the connection is dialled and when a new limit is
asked for, even in vain. No other call touches it.
-/

namespace FtpControl

open Effect

namespace Network

/-- All control sockets are under the limits that they were under. -/
def SameLimits (net net' : Network) : Prop :=
  ∀ n, (net'.sockets (.control n)).timeout = (net.sockets (.control n)).timeout

instance : IsPreorder Network SameLimits where
  refl _ _ := rfl
  trans _ _ _ h h' n := (h' n).trans (h n)

variable {net net' : Network} {h : Handle} {s : Socket}

theorem sameLimits_of_sockets (hsockets : net'.sockets = net.sockets) : net.SameLimits net' :=
  fun n => by rw [hsockets]

theorem sameLimits_setAt (hsockets : net'.sockets = setAt net.sockets h s)
    (hs : s.timeout = (net.sockets h).timeout) : net.SameLimits net' := by
  intro n
  by_cases hn : Handle.control n = h
  · rw [hsockets, hn, setAt_same, hs]
  · rw [hsockets, setAt_of_ne hn]

theorem sameLimits_setAt_of_not_control (hh : ∀ n, h ≠ .control n)
    (hsockets : net'.sockets = setAt net.sockets h s) : net.SameLimits net' := by
  intro n
  rw [hsockets, setAt_of_ne (hh n).symm]

end Network

namespace Net

variable {α : Type}

/-- Calls that leave the limits of control sockets alone. -/
abbrev KeepsLimits (m : Net α) : Prop := Keeps Network.SameLimits m

theorem keepsLimits_update {f : Network → Network} (h : ∀ net, (f net).sockets = net.sockets) :
    KeepsLimits (update f) :=
  fun net => Network.sameLimits_of_sockets (h net)

theorem keepsLimits_record (e : Event) : KeepsLimits (record e) :=
  keepsLimits_update fun _ => rfl

theorem keepsLimits_log (source : LogSource) (level : LogLevel) (message : String) :
    KeepsLimits (log source level message) := by
  apply keepsLimits_update
  intro net
  split <;> rfl

theorem keepsLimits_refuse (why : Option String) : KeepsLimits (refuse why) := by
  cases why with
  | none => exact .pure _
  | some why => exact .fail _

theorem keepsLimits_checkLimit (limit : Timeout) : KeepsLimits (checkLimit limit) :=
  .ite (.fail _) (.pure _)

theorem keepsLimits_openSocket (h : Handle) : KeepsLimits (openSocket h) :=
  .bind .state fun _ => .ite (.pure _) (.fail _)

theorem keepsLimits_setSocket {h : Handle} (hh : ∀ n, h ≠ .control n) (s : Socket) :
    KeepsLimits (setSocket h s) :=
  fun _ => Network.sameLimits_setAt_of_not_control hh rfl

theorem keepsLimits_handOut {h : Handle} (hh : ∀ n, h ≠ .control n) (s : Socket) :
    KeepsLimits (handOut h s) :=
  .bind (keepsLimits_update fun _ => rfl) fun _ => keepsLimits_setSocket hh s

theorem keepsLimits_openReader (n : Nat) : KeepsLimits (openReader n) :=
  .bind .state fun _ => .bind (keepsLimits_refuse _) fun _ => keepsLimits_handOut (by simp) _

theorem keepsLimits_openWriter (n : Nat) : KeepsLimits (openWriter n) :=
  .bind .state fun _ => .bind (keepsLimits_refuse _) fun _ => keepsLimits_handOut (by simp) _

theorem keepsLimits_setSource (n : Nat) (src : Source) : KeepsLimits (setSource n src) :=
  keepsLimits_update fun _ => rfl

theorem keepsLimits_transmit (n : Nat) (bytes : List UInt8) : KeepsLimits (transmit n bytes) := by
  apply Keeps.bind
  · exact .bind .state fun _ => .ite (.bind (keepsLimits_update fun _ => rfl) fun _ => .pure _)
      (.pure _)
  intro answer
  apply Keeps.bind (keepsLimits_refuse _)
  intro _
  exact .bind (keepsLimits_record _) fun _ => keepsLimits_update fun _ => rfl

theorem keepsLimits_ownAddress (h : Handle) : KeepsLimits (ownAddress h) := by
  apply Keeps.bind (keepsLimits_openSocket h)
  intro s
  cases s.ownAddress with
  | ok a => exact .pure _
  | error why => exact .fail _

theorem keepsLimits_peerAddress (h : Handle) : KeepsLimits (peerAddress h) := by
  apply Keeps.bind (keepsLimits_openSocket h)
  intro s
  cases s.peerAddress with
  | ok a => exact .pure _
  | error why => exact .fail _

theorem keepsLimits_lookUp (host : String) : KeepsLimits (lookUp host) := by
  refine .bind (keepsLimits_record _) fun _ => .bind .state fun net => ?_
  cases net.script.hostname with
  | none => exact .fail _
  | some name => exact .pure _

theorem keepsLimits_openListener : KeepsLimits openListener :=
  .bind .state fun _ => .bind (keepsLimits_update fun _ => rfl) fun _ =>
    .bind (keepsLimits_handOut (by simp) _) fun _ => .pure _

theorem keepsLimits_bind (n : Nat) (host : String) : KeepsLimits (bind n host) :=
  .bind (keepsLimits_record _) fun _ => .bind .state fun _ => .bind (keepsLimits_refuse _) fun _ =>
    keepsLimits_setSocket (by simp) _

theorem keepsLimits_listen (n backlog : Nat) : KeepsLimits (listen n backlog) :=
  .bind (keepsLimits_record _) fun _ => .bind .state fun _ => keepsLimits_refuse _

theorem keepsLimits_dialData (peer : Address) (limit : Timeout) :
    KeepsLimits (dialData peer limit) :=
  .bind .state fun _ => .bind (keepsLimits_update fun _ => rfl) fun _ =>
    .bind (keepsLimits_record _) fun _ => .bind (keepsLimits_checkLimit _) fun _ =>
      .bind (keepsLimits_refuse _) fun _ => .bind (keepsLimits_handOut (by simp) _) fun _ => .pure _

/-- A closed socket is still under its limit. -/
theorem keepsLimits_close (h : Handle) : KeepsLimits (close h) := by
  intro net
  rw [run_close]
  exact Network.sameLimits_setAt rfl rfl

/-- Where the call comes to anything the socket has the limit, also if the system then refuses it,
and the other sockets keep theirs. -/
theorem run_setTimeout_cases {limit : Timeout} (hvalid : limit.isNegative = false) (h : Handle)
    (net : Network) :
    ∃ net', ((∃ why, (setTimeout h limit).run net = (.error (.system why), net')) ∨
        (setTimeout h limit).run net = (.ok (), net')) ∧
      (net'.sockets h).timeout = limit ∧
      ∀ k, k ≠ h → (net'.sockets k).timeout = (net.sockets k).timeout := by
  have others (s : Socket) (k : Handle) (hk : k ≠ h) :
      (setAt net.sockets h s k).timeout = (net.sockets k).timeout := by
    rw [setAt_of_ne hk]
  cases hopen : (net.sockets h).isOpen with
  | false =>
    rw [run_setTimeout_of_closed hvalid hopen]
    exact ⟨_, .inl ⟨badDescriptor, rfl⟩, by simp, others _⟩
  | true =>
    rw [run_setTimeout hvalid hopen]
    cases (net.sockets h).timeoutErrors.headD none with
    | some why => exact ⟨_, .inl ⟨why, rfl⟩, by simp, others _⟩
    | none => exact ⟨_, .inr rfl, by simp, others _⟩

end Net

end FtpControl
