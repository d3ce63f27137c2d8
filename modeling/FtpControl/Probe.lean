import FtpControl.Client
import FtpControl.CommandLine.Plan
import FtpControl.Verb

/-!
# The probe

The command-line tool: it connects, prints the greeting, runs the commands given, negotiates
a data connection if asked to, and takes leave. A fault ends the run with an error line and
a closed channel.
-/

namespace FtpControl

/-- The client of a run and the lines it has printed. -/
structure Probe where
  client : Client := {}
  printed : List String := []

namespace Probe

open Effect Live

variable {α : Type}

def onClient (m : Op Client α) : Op Probe α :=
  focus Probe.client (fun p client => { p with client }) m

def onChannel (m : Op Channel α) : Op Probe α :=
  onClient (Client.onChannel m)

def print (line : String) : Op Probe Unit :=
  change fun p => { p with printed := p.printed ++ [line] }

def log (level : LogLevel) (message : String) : Op Probe Unit :=
  call (Net.log .probe level message)

/-- Warns of a verb that no server may know. -/
def checkVerb (command : String) : Op Probe Unit := do
  let verb := String.ofList (Text.firstField ' ' command.toList)
  if Verb.isKnown verb then pure ()
  else match Verb.suggestion? verb Verb.usualReach with
    | some k => log .warning s!"Unknown verb {Text.quoted verb}, did you mean {k}?"
    | none => log .warning s!"Unknown verb {Text.quoted verb}"

def runCommands : List String → Op Probe Unit
  | [] => pure ()
  | command :: rest => do
    checkVerb command
    let reply ← onClient (Client.execute command none)
    print reply.line
    runCommands rest

/-- The end of a data connection that is worth telling: where it listens, or whom it has
reached. -/
def farEnd : Op DataConnection Address := do
  if (← this).isPending then DataConnection.localAddress
  else call (Net.peerAddress (← DataConnection.dataSocket))

/-- Negotiates a data connection, prints its address, and closes it. -/
def negotiate (mode : DataMode) : Op Probe Unit := do
  let d ← onClient (Client.openData mode)
  ensure
    (do
      let shown ← lend d farEnd
      print s!"{mode.name} data connection {shown.text}")
    (lend d DataConnection.close)

/-- All that follows the greeting. -/
def converse (plan : CommandLine.Plan) : Op Probe Unit := do
  runCommands plan.commands
  if plan.negotiate then negotiate plan.mode
  onChannel Channel.logout

/-- Whether the run went well; failures other than faults are passed on. -/
inductive Status where
  | ok
  | failed
deriving DecidableEq, Repr

def Status.exitCode : Status → Nat
  | ok => 0
  | failed => 1

/-- Closes the channel behind a fault. -/
def giveUp : Op Probe Unit :=
  (onChannel Channel.close).rescue fun
    | .fault f => log .error s!"Error closing control connection: {f.message}"
    | e => fail e

/-- Carries out a plan. -/
def run (plan : CommandLine.Plan) : Op Probe Status := do
  match ← attempt (onChannel (Channel.connect plan.target plan.timeoutMillis)) with
  | .error (.fault f) =>
    log .error s!"Connection failed: {f.message}"
    print s!"error: {f.message}"
    return .failed
  | .error e => fail e
  | .ok banner =>
    print banner.line
    match ← attempt (converse plan) with
    | .ok () => return .ok
    | .error (.fault f) =>
      log .error s!"FTP error: {f.message}"
      print s!"error: {f.message}"
      giveUp
      return .failed
    | .error e => fail e

end Probe

end FtpControl
