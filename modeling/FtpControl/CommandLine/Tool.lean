import FtpControl.Probe

/-!
# The command-line tool

From a command line and an environment to an exit code, with what is printed on the way.
-/

namespace FtpControl.CommandLine

def helpText : String :=
"usage: ftpctl [-h] [--host HOST] [--port PORT] [--timeout-ms TIMEOUT_MS]
              [--mode \x7bactive,passive\x7d]
              [--log-level \x7bDEBUG,INFO,WARNING,ERROR,CRITICAL\x7d] [--negotiate]
              [COMMAND ...]

FTP control-channel probe

positional arguments:
  COMMAND               Comandos crudos, p.ej. 'USER anonymous'

options:
  -h, --help            show this help message and exit
  --host HOST           Servidor FTP
  --port PORT           Puerto de control
  --timeout-ms TIMEOUT_MS
                        Timeout de socket en milisegundos
  --mode \x7bactive,passive\x7d
                        Modo de conexion de datos
  --log-level \x7bDEBUG,INFO,WARNING,ERROR,CRITICAL\x7d
  --negotiate           Negociar una conexion de datos al final
"

/-- What the tool leaves behind: an exit code, unless it broke down, and both outputs. -/
structure Outcome where
  exit : Except Failure Nat
  stdout : String := ""
  stderr : String := ""

def Stop.outcome : Stop → Outcome
  | .help => { exit := .ok 0, stdout := helpText }
  | .usage message => { exit := .ok 2, stderr := s!"ftpctl: error: {message}" }

/-- The outcome when there is no plan: a refused value is reported, any other failure passes
through. -/
def broken : Failure → Outcome
  | .value e => { exit := .ok 2, stderr := s!"configuration error: {e.message}" }
  | e => { exit := .error e }

/-- The plan of a run, or the outcome when there is none. The environment is read first, and
what it says counts where the command line is silent. -/
def prepare (env : Environment) (line : List String) (net : Network) :
    Except Outcome Plan × Network :=
  match (Settings.load env).run net with
  | (.error e, net) => (.error (broken e), net)
  | (.ok defaults, net) =>
    match Arguments.parse defaults line with
    | .error stop => (.error stop.outcome, net)
    | .ok a =>
      match a.plan with
      | .error e => (.error (broken e), net)
      | .ok plan => (.ok plan, net)

/-- Runs the probe, logging from the level of the plan on. -/
def probe (plan : Plan) (net : Network) : Outcome × Network :=
  let (_, net) := (Net.setThreshold plan.logLevel).run net
  let (result, live) := (Probe.run plan).run ⟨{}, net⟩
  ({ exit := result.map Probe.Status.exitCode
     stdout := String.join (live.self.printed.map (· ++ "\n")) }, live.net)

/-- Runs the tool on a network. -/
def runTool (env : Environment) (line : List String) (net : Network) : Outcome × Network :=
  match prepare env line net with
  | (.error outcome, net) => (outcome, net)
  | (.ok plan, net) => probe plan net

end FtpControl.CommandLine
