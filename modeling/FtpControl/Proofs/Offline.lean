import FtpControl.DataConnection
import FtpControl.Proofs.Channel.Exchange
import FtpControl.Proofs.Network.Ledger

/-!
# What does not touch a control line

Only sending a command and reading a reply move the bytes of a control connection, and only
connecting dials a new one. All that is done with sockets, with a data connection or with the
settings of a channel leaves what has been received and not yet read as it is, and the number of
connections dialled.
-/

namespace FtpControl

open Effect Live

variable {σ α : Type}

/-- The lines of all control connections, and how many connections were dialled. -/
def Network.wires (net : Network) : (Nat → ControlLine) × Nat :=
  (net.lines, net.counts.control)

theorem lines_of_wires {net net' : Network} (h : net'.wires = net.wires) :
    net'.lines = net.lines :=
  congrArg Prod.fst h

theorem dialled_of_wires {net net' : Network} (h : net'.wires = net.wires) :
    net'.counts.control = net.counts.control :=
  congrArg Prod.snd h

namespace Net

/-- Calls that leave all control connections as they are and dial no new one. -/
abbrev Offline (m : Net α) : Prop :=
  Keeps (fun net net' => net'.wires = net.wires) m

theorem offline_record (e : Event) : Offline (record e) :=
  .update fun _ => rfl

theorem offline_log (source : LogSource) (level : LogLevel) (message : String) :
    Offline (log source level message) := by
  intro net
  obtain ⟨logs, hlog⟩ := run_log source level message net
  rw [hlog]
  rfl

theorem offline_refuse (why : Option String) : Offline (refuse why) := by
  cases why with
  | none => exact .pure _
  | some why => exact .fail _

theorem offline_handOut (h : Handle) (s : Socket) : Offline (handOut h s) :=
  .bind (.update fun _ => rfl) fun _ => .update fun _ => rfl

theorem offline_openSocket (h : Handle) : Offline (openSocket h) :=
  .bind .state fun _ => .ite (.pure _) (.fail _)

theorem offline_checkLimit (limit : Timeout) : Offline (checkLimit limit) :=
  .ite (.fail _) (.pure _)

theorem offline_setTimeout (h : Handle) (limit : Timeout) : Offline (setTimeout h limit) := by
  apply Keeps.bind (offline_checkLimit limit)
  intro _
  refine .bind .state fun _ => .bind (.update fun _ => rfl) fun _ => ?_
  apply Keeps.bind (offline_openSocket h)
  intro s
  refine .bind (.update fun _ => rfl) fun _ => ?_
  exact .bind (offline_refuse _) fun _ => offline_record _

theorem offline_ownAddress (h : Handle) : Offline (ownAddress h) := by
  apply Keeps.bind (offline_openSocket h)
  intro s
  split
  · exact .pure _
  · exact .fail _

theorem offline_peerAddress (h : Handle) : Offline (peerAddress h) := by
  apply Keeps.bind (offline_openSocket h)
  intro s
  split
  · exact .pure _
  · exact .fail _

theorem offline_lookUp (host : String) : Offline (lookUp host) := by
  apply Keeps.bind (offline_record _)
  intro _
  refine .bind .state fun net => ?_
  split
  · exact .pure _
  · exact .fail _

theorem offline_openReader (n : Nat) : Offline (openReader n) :=
  .bind .state fun _ => .bind (offline_refuse _) fun _ => offline_handOut _ _

theorem offline_openWriter (n : Nat) : Offline (openWriter n) :=
  .bind .state fun _ => .bind (offline_refuse _) fun _ => offline_handOut _ _

theorem offline_close (h : Handle) : Offline (close h) := by
  intro net
  rw [run_close]
  rfl

theorem offline_shutdown (h : Handle) : Offline (shutdown h) :=
  .bind (offline_openSocket h) fun _ => .bind (offline_record _) fun _ => offline_refuse _

theorem offline_openListener : Offline openListener :=
  .bind .state fun _ => .bind (.update fun _ => rfl) fun _ =>
    .bind (offline_handOut _ _) fun _ => .pure _

theorem offline_bind (n : Nat) (host : String) : Offline (bind n host) := by
  apply Keeps.bind (offline_record _)
  intro _
  apply Keeps.read
  intro net
  rw [run_bind]
  cases (net.listeners n).bindError <;> rfl

theorem offline_listen (n backlog : Nat) : Offline (listen n backlog) :=
  .bind (offline_record _) fun _ => .bind .state fun _ => offline_refuse _

theorem offline_accept (n : Nat) : Offline (accept n) := by
  apply Keeps.bind (offline_openSocket _)
  intro s
  apply Keeps.bind (offline_record _)
  intro _
  refine .bind .state fun net => ?_
  split
  · exact .fail _
  · exact .fail _
  · exact .bind (.update fun _ => rfl) fun _ => .bind (offline_handOut _ _) fun _ => .pure _

theorem offline_dialData (peer : Address) (limit : Timeout) : Offline (dialData peer limit) := by
  refine .bind .state fun net => ?_
  refine .bind (.update fun _ => rfl) fun _ => ?_
  apply Keeps.bind (offline_record _)
  intro _
  apply Keeps.bind (offline_checkLimit limit)
  intro _
  exact .bind (offline_refuse _) fun _ => .bind (offline_handOut _ _) fun _ => .pure _

end Net

/-- Operations that leave all control connections as they are and dial no new one. -/
abbrev Offline (m : Op σ α) : Prop :=
  Keeps (fun s t => t.net.wires = s.net.wires) m

/-- Operations that dial no control connection, whatever they do to those that there are. -/
abbrev DialsNone (m : Op σ α) : Prop :=
  Keeps (fun s t => t.net.counts.control = s.net.counts.control) m

theorem offline_call {m : Net α} (hm : Net.Offline m) : Offline (call m : Op σ α) :=
  .call hm fun _ _ h => h

theorem dialsNone_of_offline {m : Op σ α} (hm : Offline m) : DialsNone m :=
  hm.imp fun _ _ h => dialled_of_wires h

theorem dialsNone_setSource (n : Nat) (src : Source) :
    DialsNone (call (Net.setSource n src) : Op σ Unit) :=
  fun _ => rfl

theorem dialsNone_transmit (n : Nat) (bytes : List UInt8) :
    DialsNone (call (Net.transmit n bytes) : Op σ Unit) := by
  have sent : Keeps (fun net net' => net'.counts.control = net.counts.control)
      (Net.transmit n bytes) := by
    refine .bind (.bind .state fun net => .ite ?_ (.pure _)) fun answer => ?_
    · exact .bind (.update fun _ => rfl) fun _ => .pure _
    apply Keeps.bind ((Net.offline_refuse _).imp fun _ _ h => dialled_of_wires h)
    intro _
    exact .bind (.update fun _ => rfl) fun _ => .update fun _ => rfl
  exact .call sent fun _ _ h => h

theorem offline_change (f : σ → σ) : Offline (change f : Op σ Unit) :=
  .change fun _ => rfl

namespace Channel

theorem offline_log (level : LogLevel) (message : String) : Offline (log level message) :=
  offline_call (Net.offline_log _ _ _)

theorem dialsNone_receive : DialsNone receive :=
  keeps_receive (fun _ _ _ => dialsNone_of_offline (offline_call (Net.offline_log _ _ _)))
    dialsNone_setSource

theorem offline_applyTimeout (n : Nat) (millis : Int) : Offline (applyTimeout n millis) := by
  unfold applyTimeout
  by_cases hmillis : millis < 0
  · rw [if_pos hmillis]
    exact .failed
  · rw [if_neg hmillis]
    apply Keeps.given
    intro limit _
    exact .bind (offline_call (Net.offline_setTimeout _ _)) fun _ => offline_change _

theorem offline_setTimeout (millis : Int) : Offline (setTimeout millis) := by
  refine .bind .this fun c => ?_
  cases c.socket with
  | none => exact .fail _
  | some n => exact offline_applyTimeout n millis

theorem offline_localHost : Offline localHost :=
  .bind (keeps_connectedSocket _) fun _ =>
    .bind (offline_call (Net.offline_ownAddress _)) fun _ => .pure _

theorem offline_remoteAddress : Offline remoteAddress :=
  .bind (keeps_connectedSocket _) fun _ => offline_call (Net.offline_peerAddress _)

theorem offline_remoteHostName : Offline remoteHostName := by
  apply Keeps.bind offline_remoteAddress
  intro peer
  apply Keeps.rescue (offline_call (Net.offline_lookUp _))
  intro e
  split
  · exact .pure _
  · exact .fail _

theorem offline_closeResources (hs : List Handle) : Net.Offline (closeResources hs) := by
  have first : ∀ h, Net.Offline (closeResource h) := by
    intro h
    apply Keeps.bind (.attempt (Net.offline_close h))
    intro r
    split
    · exact .pure _
    · exact .bind (Net.offline_log _ _ _) fun _ => .pure _
    · exact .fail _
  induction hs with
  | nil => exact .pure _
  | cons h hs ih => exact .bind (first h) fun _ => .bind ih fun _ => .pure _

theorem offline_release : Offline release := by
  refine .bind .this fun c => ?_
  apply Keeps.bind (offline_call (offline_closeResources _))
  intro error
  apply Keeps.bind (offline_change _)
  intro _
  cases c.peer with
  | none => exact keeps_report _
  | some peer => exact .bind (offline_log _ _) fun _ => keeps_report _

theorem offline_releaseQuietly : Offline releaseQuietly := by
  apply Keeps.rescue offline_release
  intro e
  split
  · exact offline_log _ _
  · exact .fail _

theorem offline_close : Offline close := by
  refine .bind .this fun c => ?_
  cases c.state with
  | unconnected => exact .fail _
  | connected => exact offline_release
  | closed => exact .pure _

end Channel

namespace DataConnection

theorem offline_log (level : LogLevel) (message : String) : Offline (log level message) :=
  offline_call (Net.offline_log _ _ _)

theorem offline_dataSocket : Offline dataSocket := by
  refine .bind .this fun d => ?_
  refine .ite .failed ?_
  cases d.socket with
  | none => exact .fail _
  | some h => exact .pure _

theorem offline_localAddress : Offline localAddress := by
  refine .bind .this fun d => ?_
  cases d.listener with
  | none => exact .bind offline_dataSocket fun _ => offline_call (Net.offline_ownAddress _)
  | some n => exact offline_call (Net.offline_ownAddress _)

theorem offline_await (n : Nat) (millis : Int) : Offline (await n millis) := by
  apply Keeps.ensure
  · apply Keeps.rescue
    · refine .bind (.ofExcept _) fun limit => ?_
      exact .bind (offline_call (Net.offline_setTimeout _ _)) fun _ =>
        offline_call (Net.offline_accept n)
    · intro e
      split
      · exact .bind (offline_change _) fun _ => .fail _
      · exact .fail _
  · exact offline_call (Net.offline_close _)

theorem offline_accept (waitMillis : Option Int) : Offline (accept waitMillis) := by
  refine .bind .this fun d => ?_
  refine .ite .failed ?_
  cases d.listener with
  | none => exact .fail _
  | some n =>
    apply Keeps.bind (offline_await n _)
    intro arrived
    apply Keeps.bind (offline_change _)
    intro _
    refine .bind (.ofExcept _) fun limit => ?_
    apply Keeps.bind (offline_call (Net.offline_setTimeout _ _))
    intro _
    exact .bind (offline_change _) fun _ => .bind (offline_log _ _) fun _ => .pure _

theorem offline_shutdownListener (n : Nat) : Offline (shutdownListener n) := by
  apply Keeps.rescue (offline_call (Net.offline_shutdown _))
  intro e
  split
  · exact offline_log _ _
  · exact .fail _

theorem offline_closeSockets (hs : List Handle) : Offline (closeSockets hs) := by
  have first : ∀ h, Offline (closeSocket h) := by
    intro h
    apply Keeps.bind (.attempt (offline_call (Net.offline_close h)))
    intro r
    split
    · exact .pure _
    · exact .bind (offline_log _ _) fun _ => .pure _
    · exact .fail _
  induction hs with
  | nil => exact .pure _
  | cons h hs ih => exact .bind (first h) fun _ => .bind ih fun _ => .pure _

theorem offline_close : Offline close := by
  refine .bind .this fun d => ?_
  refine .ite (.pure _) (.bind (offline_change _) fun _ => ?_)
  split
  on_goal 1 => refine .bind (offline_shutdownListener _) fun _ => ?_
  all_goals
    apply Keeps.bind (offline_closeSockets _)
    intro error
    apply Keeps.bind (offline_change _)
    intro _
    apply Keeps.bind (offline_log _ _)
    intro _
    cases error with
    | none => exact .pure _
    | some why => exact .fail _

end DataConnection

end FtpControl
