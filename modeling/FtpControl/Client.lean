import FtpControl.Instant
import FtpControl.Negotiation

/-!
# Clients

A client runs commands on a control channel and keeps a history of them: the command as it
may be shown, the reply, and the fault if there was one. Faults are recorded and passed on.
-/

namespace FtpControl

/-- One exchange, `time` being its instant on the clock. -/
structure Entry where
  time : Nat
  command : String
  reply : Option Reply
  error : Option Fault
deriving DecidableEq, Repr

structure Client where
  channel : Channel := {}
  history : List Entry := []
deriving DecidableEq, Repr

namespace Client

open Effect Live

variable {α : Type}

/-- An operation of the client's channel. -/
def onChannel (m : Op Channel α) : Op Client α :=
  focus Client.channel (fun c channel => { c with channel }) m

/-- Adds an entry to the history. The clock is read before the command is masked. -/
def record (command : String) (reply : Option Reply) (error : Option Fault) : Op Client Unit := do
  let time ← call Net.now
  let shown ← ofExcept (Command.masked command)
  change fun c => { c with history := c.history ++ [⟨time, shown, reply, error⟩] }

/-- Runs a command; with codes given, the reply must have one of them. -/
def execute (command : String) (expected : Option (List String)) : Op Client Reply := do
  let reply ← (onChannel (Channel.send command)).rescue fun
    | .fault f => do
      record command none (some f)
      fail (.fault f)
    | e => fail e
  match expected.map fun codes => Channel.validate codes reply with
  | some (.error (.fault f)) =>
    record command (some reply) (some f)
    fail (.fault f)
  | some (.error e) => fail e
  | _ => pure ()
  record command (some reply) none
  return reply

/-- The reply that a fault carries, put together again from its number and its text. -/
def carriedReply (f : Fault) : Except Fault (Option Reply) :=
  match f.replyText? with
  | some text =>
    if f.replyCode = -1 then .ok none
    else (Reply.make (toString f.replyCode) text).map some
  | none => .ok none

/-- Negotiates a data connection and records the command with the reply to it. -/
def openData (mode : DataMode) : Op Client DataConnection := do
  let d ← (onChannel (Negotiation.run mode)).rescue fun
    | .fault f => do
      let reply ← match carriedReply f with
        | .ok reply => pure reply
        | .error g => fail (.fault g)
      record mode.verb reply (some f)
      fail (.fault f)
    | e => fail e
  record (if d.command.isEmpty then mode.verb else d.command) (some d.reply) none
  call (Net.log .client .debug s!"Negotiated {d.text}")
  return d

def clearHistory : Op Client Unit :=
  change fun c => { c with history := [] }

end Client

end FtpControl
