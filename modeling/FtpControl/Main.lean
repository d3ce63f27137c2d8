import FtpControl.CommandLine.Tool

/-!
# The program

Runs the tool against a recorded server: standard input holds everything that the server
says, from the greeting on. The log goes to standard error.
-/

namespace FtpControl.Program

/-- The variables of the environment that are set. -/
def readEnvironment : IO Environment := do
  let values ← Settings.variableNames.mapM fun name => return (name, ← IO.getEnv name)
  return values.filterMap fun (name, value) => value.map fun v => (name, v)

/-- All of a stream. -/
partial def readAll (input : IO.FS.Stream) (soFar : ByteArray) : IO ByteArray := do
  let chunk ← input.read 65536
  if chunk.isEmpty then return soFar else readAll input (soFar ++ chunk)

/-- A server that says what is given and then hangs up. -/
def recordedServer (bytes : List UInt8) : Network :=
  { script := { controls := [{ banner := bytes, ending := .eof }] } }

/-- Prints what a run leaves behind and yields its exit code. -/
def report (outcome : CommandLine.Outcome) (net : Network) : IO UInt32 := do
  for r in net.logs do
    IO.eprintln r.line
  IO.print outcome.stdout
  unless outcome.stderr.isEmpty do
    IO.eprintln outcome.stderr
  match outcome.exit with
  | .ok code => return UInt32.ofNat code
  | .error e => do
    IO.eprintln e.message
    return 1

def run (line : List String) : IO UInt32 := do
  match CommandLine.prepare (← readEnvironment) line {} with
  | (.error outcome, net) => report outcome net
  | (.ok plan, _) => do
    let bytes ← readAll (← IO.getStdin) ByteArray.empty
    let (outcome, net) := CommandLine.probe plan (recordedServer bytes.toList)
    report outcome net

end FtpControl.Program

def main (line : List String) : IO UInt32 :=
  FtpControl.Program.run line
