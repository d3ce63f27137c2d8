import FtpControl.Negotiation
import FtpControl.Proofs.Effect

/-!
# What an exchange keeps

An exchange of a command and a reply consists of few kinds of calls. A relation that all of
these keep is kept by every exchange, whatever becomes of it. A negotiation takes an exchange and
a few calls more.
-/

namespace FtpControl.Channel

open Effect Live

section Runs

variable {c : Channel} {net : Network}

theorem run_requireConnected (hstate : c.state = .connected) (action : String) :
    (requireConnected action).run ⟨c, net⟩ = (.ok (), ⟨c, net⟩) := by
  rw [requireConnected, run_look, if_pos hstate]
  rfl

theorem run_requireConnected_of_idle (hstate : c.state ≠ .connected) (action : String) :
    (requireConnected action).run ⟨c, net⟩ =
      (.error (.fault (.notConnected action c.state)), ⟨c, net⟩) := by
  rw [requireConnected, run_look, if_neg hstate]
  rfl

end Runs

/-- The last exchange of a session. -/
def farewell : Op Channel Unit := do
  let reply ← send "QUIT"
  let _ ← ofExcept (validate ["221", "200"] reply)

/-- Whatever comes of the farewell, the channel is closed behind it. -/
theorem logout_eq : logout = requireConnected "logout" >>= fun _ => farewell.ensure close := rfl

/-! ## What a caller accepts -/

theorem validate_ok {expected : List String} {reply accepted : Reply}
    (h : validate expected reply = .ok accepted) :
    reply = accepted ∧ reply.code.toString ∈ expected := by
  unfold validate at h
  split_ifs at h with hcode
  cases h
  exact ⟨rfl, hcode⟩

theorem validate_error {expected : List String} {reply : Reply} {e : Failure}
    (h : validate expected reply = .error e) : e = .fault (.refused reply) := by
  unfold validate at h
  split_ifs at h
  cases h
  rfl

/-! ## What is kept -/

variable {R : Live Channel → Live Channel → Prop}

/-- Relations kept by all that reading a reply may involve. -/
structure Reading (R : Live Channel → Live Channel → Prop) : Prop where
  log : ∀ source level message, Keeps R (call (Net.log source level message) : Op Channel Unit)
  setSource : ∀ n src, Keeps R (call (Net.setSource n src) : Op Channel Unit)
  release : Keeps R release

/-- Relations kept by all that sending a command may involve. -/
structure Exchanging (R : Live Channel → Live Channel → Prop) : Prop extends Reading R where
  transmit : ∀ n bytes, Keeps R (call (Net.transmit n bytes) : Op Channel Unit)

/-- Relations kept by all that a negotiation may involve. -/
structure Negotiating (R : Live Channel → Live Channel → Prop) : Prop extends Exchanging R where
  ownAddress : ∀ h, Keeps R (call (Net.ownAddress h) : Op Channel Address)
  openListener : Keeps R (call Net.openListener : Op Channel Nat)
  bind : ∀ n host, Keeps R (call (Net.bind n host) : Op Channel Unit)
  listen : ∀ n backlog, Keeps R (call (Net.listen n backlog) : Op Channel Unit)
  closeListener : ∀ n, Keeps R (call (Net.close (.listener n)) : Op Channel Unit)
  dialData : ∀ peer limit, Keeps R (call (Net.dialData peer limit) : Op Channel Handle)

variable [IsPreorder (Live Channel) R]

theorem keeps_requireConnected (action : String) : Keeps R (requireConnected action) :=
  .bind .this fun _ => .ite (.pure _) (.fail _)

theorem keeps_connectedSocket (action : String) : Keeps R (connectedSocket action) := by
  apply Keeps.bind (R := R) (keeps_requireConnected action)
  intro _
  apply Keeps.bind (R := R) .this
  intro c
  cases c.socket with
  | none => exact .fail _
  | some n => exact .pure _

theorem keeps_trace
    (hlog : ∀ source level message, Keeps R (call (Net.log source level message) : Op Channel Unit))
    (lines : List Line) : Keeps R (trace lines) := by
  induction lines with
  | nil => exact .pure _
  | cons line rest ih => exact .bind (hlog _ _ _) fun _ => ih

theorem keeps_outcome (outcome : Except Fault Reply) :
    Keeps R (match outcome with
      | .ok reply => pure reply
      | .error f => fault f : Op Channel Reply) := by
  cases outcome with
  | ok reply => exact .pure _
  | error f => exact .fail _

theorem keeps_receive
    (hlog : ∀ source level message, Keeps R (call (Net.log source level message) : Op Channel Unit))
    (hset : ∀ n src, Keeps R (call (Net.setSource n src) : Op Channel Unit)) :
    Keeps R receive := by
  refine .bind .this fun c => ?_
  split
  · exact .fail _
  · refine .bind (fun s => refl_of R s) fun src => .bind (hset _ _) fun _ => ?_
    exact .ite (.bind (keeps_trace hlog _) fun _ => keeps_outcome _) (keeps_outcome _)

theorem keeps_report (error : Option String) :
    Keeps R (match error with
      | some why => fault (.releaseFailed why)
      | none => pure () : Op Channel Unit) := by
  cases error with
  | none => exact .pure _
  | some why => exact .fail _

namespace Reading

theorem releaseQuietly (h : Reading R) : Keeps R releaseQuietly := by
  refine .rescue h.release fun e => ?_
  split
  · exact h.log _ _ _
  · exact .fail _

theorem close (h : Reading R) : Keeps R close := by
  refine .bind .this fun c => ?_
  cases c.state with
  | unconnected => exact .fail _
  | connected => exact h.release
  | closed => exact .pure _

theorem readReply (h : Reading R) : Keeps R readReply := by
  refine .bind (keeps_requireConnected _) fun _ => ?_
  refine .rescue (keeps_receive h.log h.setSource) fun e => ?_
  split
  · refine .ite (.bind (h.log _ _ _) fun _ => ?_) (.fail _)
    exact .bind h.releaseQuietly fun _ => .fail _
  · exact .fail _

end Reading

namespace Exchanging

theorem sending (h : Exchanging R) (command : String) : Keeps R (Channel.transmit command) := by
  refine .bind .this fun c => ?_
  split
  · exact .fail _
  · refine .rescue (h.transmit _ _) fun e => ?_
    split
    · exact .bind h.releaseQuietly fun _ => .fail _
    · exact .fail _

theorem send (h : Exchanging R) (command : String) : Keeps R (send command) := by
  refine .bind (keeps_requireConnected _) fun _ => .bind (.ofExcept _) fun shown => ?_
  exact .bind (h.log _ _ _) fun _ => .bind (h.sending command) fun _ => h.readReply

theorem farewell (h : Exchanging R) : Keeps R farewell :=
  .bind (h.send _) fun _ => .bind (.ofExcept _) fun _ => .pure _

theorem logout (h : Exchanging R) : Keeps R logout :=
  .bind (keeps_requireConnected _) fun _ => .ensure h.farewell h.close

end Exchanging

namespace Negotiating

theorem localHost (h : Negotiating R) : Keeps R localHost := by
  apply Keeps.bind (R := R) (keeps_connectedSocket _)
  intro socket
  exact .bind (h.ownAddress _) fun _ => .pure _

theorem announce (h : Negotiating R) (n : Nat) (host : String) :
    Keeps R (Negotiation.announce n host) := by
  apply Keeps.bind (h.bind n host)
  intro _
  apply Keeps.bind (h.listen n 1)
  intro _
  apply Keeps.bind (h.ownAddress _)
  intro own
  apply Keeps.bind (h.log _ _ _)
  intro _
  split
  · refine .bind (.pure _) fun command => .bind (h.send command) fun answer => ?_
    exact .bind (.ofExcept _) fun reply => .bind .this fun _ => .pure _
  · exact .failed

theorem active (h : Negotiating R) : Keeps R Negotiation.active := by
  apply Keeps.bind h.localHost
  intro host
  apply Keeps.bind h.openListener
  intro n
  apply Keeps.rescue (h.announce n host)
  intro e
  apply Keeps.bind (h.closeListener n)
  intro _
  split
  · exact .fail _
  · exact .fail _

theorem passiveEndpoint (h : Negotiating R) (reply : Reply) :
    Keeps R (Negotiation.passiveEndpoint reply) := by
  unfold Negotiation.passiveEndpoint
  split
  · exact .bind (h.log _ _ _) fun _ => .pure _
  · exact .fail _

theorem passive (h : Negotiating R) : Keeps R Negotiation.passive := by
  apply Keeps.bind (h.send _)
  intro answer
  apply Keeps.bind (R := R) (.ofExcept _)
  intro reply
  apply Keeps.bind (h.passiveEndpoint reply)
  intro peer
  apply Keeps.bind (R := R) .this
  intro c
  apply Keeps.bind (R := R) (.ofExcept _)
  intro limit
  apply Keeps.bind (R := R)
  · apply Keeps.rescue (h.dialData peer.address limit)
    intro e
    split
    · exact .fail _
    · exact .fail _
  intro socket
  exact .bind (h.log _ _ _) fun _ => .pure _

theorem negotiation (h : Negotiating R) (mode : DataMode) : Keeps R (Negotiation.run mode) := by
  cases mode with
  | active => exact h.active
  | passive => exact h.passive

end Negotiating

end FtpControl.Channel
