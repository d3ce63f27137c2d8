import FtpControl.CommandLine.Arguments

/-!
# Plans

What one run of the tool does: whom to call, what to send, and whether to negotiate. A plan
comes from arguments whose values are all there and within their limits; only the host is
taken as it is, even if it has been withheld.
-/

namespace FtpControl.CommandLine

structure Plan where
  target : Target
  timeoutMillis : Int
  mode : DataMode
  logLevel : LogLevel
  commands : List String
  negotiate : Bool
deriving DecidableEq, Repr

/-- A value that must not have been withheld. -/
def required {α : Type} (setting : Withheld) : Option α → Except Failure α
  | some a => .ok a
  | none => .error (.withheld setting)

/-- The plan that arguments amount to. The mode is needed first; then port, time limit and
level are looked at in this order, and the first fault is the one that counts. -/
def Arguments.plan (a : Arguments) : Except Failure Plan := do
  let mode ← required .mode a.mode
  let port ← required .port a.port
  (Settings.checkPort port).mapError .value
  let timeoutMillis ← required .timeout a.timeoutMillis
  (Settings.checkTimeout timeoutMillis).mapError .value
  let logLevel ← required .level a.level
  return {
    target := ⟨a.host, port⟩
    timeoutMillis, mode, logLevel
    commands := a.commands, negotiate := a.negotiate }

end FtpControl.CommandLine
