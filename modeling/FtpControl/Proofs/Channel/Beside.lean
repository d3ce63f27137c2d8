import FtpControl.Channel
import FtpControl.Proofs.Network.Beside

/-!
# Channels on two networks side by side

A channel goes on alike on both networks, also when it sends different commands, as long as
these are shown as the same.
-/

namespace FtpControl.Channel

open Effect Live

variable {α : Type} {p p' : List LogRecord}

theorem abreast_log (level : LogLevel) (message : String) :
    Abreast p p' (log level message) (log level message) :=
  .call (Net.abreast_log _ _ _)

theorem abreast_requireConnected (action : String) :
    Abreast p p' (requireConnected action) (requireConnected action) :=
  .bind .this fun _ => .ite (.pure _) (.fail _)

theorem abreast_closeResource (h : Handle) :
    Net.Abreast p p' (closeResource h) (closeResource h) := by
  refine .bind (.attempt (Net.abreast_close h)) fun outcome => ?_
  split
  · exact .pure _
  · exact .bind (Net.abreast_log _ _ _) fun _ => .pure _
  · exact .fail _

theorem abreast_closeResources (hs : List Handle) :
    Net.Abreast p p' (closeResources hs) (closeResources hs) := by
  induction hs with
  | nil => exact .pure _
  | cons h hs ih => exact .bind (abreast_closeResource h) fun _ => .bind ih fun _ => .pure _

theorem abreast_release : Abreast p p' release release := by
  refine .bind .this fun c => .bind (.call (abreast_closeResources _)) fun error => ?_
  refine .bind (.change _) fun _ => ?_
  cases error with
  | none =>
    cases c.peer with
    | none => exact .pure _
    | some peer => exact .bind (abreast_log _ _) fun _ => .pure _
  | some why =>
    cases c.peer with
    | none => exact .fail _
    | some peer => exact .bind (abreast_log _ _) fun _ => .fail _

theorem abreast_releaseQuietly : Abreast p p' releaseQuietly releaseQuietly := by
  refine .rescue abreast_release fun e => ?_
  split
  · exact abreast_log _ _
  · exact .fail _

theorem abreast_close : Abreast p p' close close := by
  refine .bind .this fun c => ?_
  cases c.state with
  | unconnected => exact .fail _
  | connected => exact abreast_release
  | closed => exact .pure _

theorem abreast_closing {m m' : Op Channel α} (hm : Abreast p p' m m') :
    Abreast p p' (closing m) (closing m') :=
  .ensure hm (.bind .this fun _ => .ite abreast_close (.pure _))

theorem abreast_localHost : Abreast p p' localHost localHost := by
  refine .bind (.bind (abreast_requireConnected _) fun _ => .bind .this fun c => ?_) ?_
  · split
    · exact .pure _
    · exact .fail _
  · intro handle
    exact .bind (.call (Net.abreast_ownAddress _)) fun _ => .pure _

theorem abreast_trace (lines : List Line) : Abreast p p' (trace lines) (trace lines) := by
  induction lines with
  | nil => exact .pure _
  | cons line rest ih => exact .bind (.call (Net.abreast_log _ _ _)) fun _ => ih

theorem abreast_receive : Abreast p p' receive receive := by
  refine .bind .this fun c => ?_
  split
  · exact .fail _
  · refine .bind (.call (Net.abreast_source _)) fun src => ?_
    refine .bind (.call (Net.abreast_setSource _ _)) fun _ => ?_
    refine .ite (.bind (abreast_trace _) fun _ => ?_) ?_
    all_goals
      split
      · exact .pure _
      · exact .fail _

theorem abreast_readReply : Abreast p p' readReply readReply := by
  refine .bind (abreast_requireConnected _) fun _ => .rescue abreast_receive fun e => ?_
  split
  · refine .ite (.bind (abreast_log _ _) fun _ => ?_) (.fail _)
    exact .bind abreast_releaseQuietly fun _ => .fail _
  · exact .fail _

theorem abreast_transmit (command command' : String) :
    Abreast p p' (transmit command) (transmit command') := by
  refine .bind .this fun c => ?_
  cases c.writer with
  | none => exact .fail _
  | some n =>
    refine .rescue (.call (Net.abreast_transmit n _ _)) fun e => ?_
    split
    · exact .bind abreast_releaseQuietly fun _ => .fail _
    · exact .fail _

theorem abreast_send {command command' : String}
    (h : Command.masked command = Command.masked command') :
    Abreast p p' (send command) (send command') := by
  unfold send
  rw [h]
  refine .bind (abreast_requireConnected _) fun _ => .bind (.ofExcept _) fun shown => ?_
  refine .bind (abreast_log _ _) fun _ => ?_
  exact .bind (abreast_transmit command command') fun _ => abreast_readReply

theorem abreast_logout : Abreast p p' logout logout := by
  refine .bind (abreast_requireConnected _) fun _ => .ensure ?_ abreast_close
  exact .bind (abreast_send rfl) fun _ => .bind (.ofExcept _) fun _ => .pure _

end FtpControl.Channel
