import FtpControl.Client
import FtpControl.Proofs.Channel.Beside

/-!
# Clients on two networks side by side

Commands that are shown as the same, negotiations and data connections go on alike on both
networks.
-/

namespace FtpControl

open Effect Live

variable {α : Type} {p p' : List LogRecord}

namespace DataConnection

theorem abreast_log (level : LogLevel) (message : String) :
    Abreast p p' (log level message) (log level message) :=
  .call (Net.abreast_log _ _ _)

theorem abreast_dataSocket : Abreast p p' dataSocket dataSocket := by
  refine .bind .this fun d => .ite .failed ?_
  cases d.socket with
  | none => exact .fail _
  | some handle => exact .pure _

theorem abreast_localAddress : Abreast p p' localAddress localAddress := by
  refine .bind .this fun d => ?_
  cases d.listener with
  | none => exact .bind abreast_dataSocket fun _ => .call (Net.abreast_ownAddress _)
  | some n => exact .call (Net.abreast_ownAddress _)

theorem abreast_shutdownListener (n : Nat) :
    Abreast p p' (shutdownListener n) (shutdownListener n) := by
  refine .rescue (.call (Net.abreast_shutdown _)) fun e => ?_
  split
  · exact abreast_log _ _
  · exact .fail _

theorem abreast_closeSocket (h : Handle) : Abreast p p' (closeSocket h) (closeSocket h) := by
  refine .bind (.attempt (.call (Net.abreast_close h))) fun outcome => ?_
  split
  · exact .pure _
  · exact .bind (abreast_log _ _) fun _ => .pure _
  · exact .fail _

theorem abreast_closeSockets (hs : List Handle) :
    Abreast p p' (closeSockets hs) (closeSockets hs) := by
  induction hs with
  | nil => exact .pure _
  | cons h hs ih => exact .bind (abreast_closeSocket h) fun _ => .bind ih fun _ => .pure _

theorem abreast_report (error : Option String) :
    Abreast p p'
      (match error with
        | some why => fault (.dataCloseFailed why)
        | none => pure () : Op DataConnection Unit)
      (match error with
        | some why => fault (.dataCloseFailed why)
        | none => pure ()) := by
  cases error with
  | none => exact .pure _
  | some why => exact .fail _

theorem abreast_close : Abreast p p' close close := by
  refine .bind .this fun d => .ite (.pure _) (.bind (.change _) fun _ => ?_)
  cases d.listener with
  | none =>
    refine .bind (abreast_closeSockets _) fun error => .bind (.change _) fun _ => ?_
    exact .bind (abreast_log _ _) fun _ => abreast_report error
  | some n =>
    refine .bind (abreast_shutdownListener n) fun _ => ?_
    refine .bind (abreast_closeSockets _) fun error => .bind (.change _) fun _ => ?_
    exact .bind (abreast_log _ _) fun _ => abreast_report error

end DataConnection

namespace Negotiation

theorem abreast_announce (n : Nat) (host : String) :
    Abreast p p' (announce n host) (announce n host) := by
  refine .bind (.call (Net.abreast_bind _ _)) fun _ => ?_
  refine .bind (.call (Net.abreast_listen _ _)) fun _ => ?_
  refine .bind (.call (Net.abreast_ownAddress _)) fun own => ?_
  refine .bind (.call (Net.abreast_log _ _ _)) fun _ => ?_
  cases Endpoint.ofAddress host own.port with
  | error f => exact .failed
  | ok e =>
    refine .bind (.pure _) fun command => .bind (Channel.abreast_send rfl) fun _ => ?_
    exact .bind (.ofExcept _) fun _ => .bind .this fun _ => .pure _

theorem abreast_active : Abreast p p' active active := by
  refine .bind Channel.abreast_localHost fun host => ?_
  refine .bind (.call Net.abreast_openListener) fun n => ?_
  refine .rescue (abreast_announce n host) fun e => ?_
  refine .bind (.call (Net.abreast_close _)) fun _ => ?_
  split
  · exact .fail _
  · exact .fail _

theorem abreast_passiveEndpoint (reply : Reply) :
    Abreast p p' (passiveEndpoint reply) (passiveEndpoint reply) := by
  unfold passiveEndpoint
  split
  · exact .bind (.call (Net.abreast_log _ _ _)) fun _ => .pure _
  · exact .fail _

theorem abreast_passive : Abreast p p' passive passive := by
  refine .bind (Channel.abreast_send rfl) fun _ => .bind (.ofExcept _) fun reply => ?_
  refine .bind (abreast_passiveEndpoint reply) fun peer => .bind .this fun c => ?_
  refine .bind (.ofExcept _) fun limit => ?_
  refine .bind (.rescue (.call (Net.abreast_dialData _ _)) fun e => ?_) fun handle => ?_
  · split
    · exact .fail _
    · exact .fail _
  · exact .bind (.call (Net.abreast_log _ _ _)) fun _ => .pure _

theorem abreast_run (mode : DataMode) : Abreast p p' (run mode) (run mode) := by
  cases mode with
  | active => exact abreast_active
  | passive => exact abreast_passive

end Negotiation

namespace Client

theorem abreast_onChannel {m m' : Op Channel α} (hm : Abreast p p' m m') :
    Abreast p p' (onChannel m) (onChannel m') :=
  .focus hm

variable {command command' : String}

theorem abreast_record (h : Command.masked command = Command.masked command')
    (reply : Option Reply) (error : Option Fault) :
    Abreast p p' (record command reply error) (record command' reply error) := by
  unfold record
  rw [h]
  exact .bind (.call Net.abreast_now) fun _ => .bind (.ofExcept _) fun _ => .change _

theorem abreast_execute (h : Command.masked command = Command.masked command')
    (expected : Option (List String)) :
    Abreast p p' (execute command expected) (execute command' expected) := by
  refine .bind (.rescue (abreast_onChannel (Channel.abreast_send h)) fun e => ?_) fun reply => ?_
  · split
    · exact .bind (abreast_record h _ _) fun _ => .fail _
    · exact .fail _
  · split
    · exact .bind (abreast_record h _ _) fun _ => .failed
    · exact .failed
    · exact .bind (abreast_record h _ _) fun _ => .pure _

theorem abreast_openData (mode : DataMode) : Abreast p p' (openData mode) (openData mode) := by
  refine .bind (.rescue (abreast_onChannel (Negotiation.abreast_run mode)) fun e => ?_) fun d => ?_
  · split
    · split
      · exact .bind (.pure _) fun _ => .bind (abreast_record rfl _ _) fun _ => .fail _
      · exact .failed
    · exact .fail _
  · refine .bind (abreast_record rfl _ _) fun _ => ?_
    exact .bind (.call (Net.abreast_log _ _ _)) fun _ => .pure _

end Client

end FtpControl
