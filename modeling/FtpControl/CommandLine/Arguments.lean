import FtpControl.CommandLine.Word
import FtpControl.Settings

/-!
# Arguments of a command line

What a command line asks for. Options may stand anywhere and the last of equal ones wins,
but every value is checked. An option with the separator for its value has none. The commands
are the first run of plain words; other plain words and unknown options are refused together
once everything else is in order.
-/

namespace FtpControl.CommandLine

/-- What was asked for; what is missing has been withheld. -/
structure Arguments where
  host : Option String
  port : Option Int
  timeoutMillis : Option Int
  mode : Option DataMode
  level : Option LogLevel
  negotiate : Bool
  commands : List String
deriving DecidableEq, Repr

/-- What is asked for when the command line is empty. -/
def Arguments.ofSettings (s : Settings) : Arguments where
  host := some s.host
  port := some s.port
  timeoutMillis := some s.timeoutMillis
  mode := some s.dataMode
  level := some s.logLevel
  negotiate := false
  commands := []

/-- Why a command line leads to no arguments. -/
inductive Stop where
  | help
  | usage (message : String)
deriving DecidableEq, Repr

/-- Where the run of commands stands with respect to the words read so far. -/
inductive Run where
  | ahead
  | underWay
  | past
deriving DecidableEq, Repr

/-- The arguments found so far, the place of the run, and the words that nothing takes. -/
structure Progress where
  arguments : Arguments
  run : Run := .ahead
  rejected : List String := []

def refuse {α : Type} (flag : Flag) (why : String) : Except Stop α :=
  .error (.usage s!"argument {flag.label}: {why}")

def ignoredValue {α : Type} (flag : Flag) (value : String) : Except Stop α :=
  refuse flag s!"ignored explicit argument {Text.quoted value}"

/-- The short help option may be repeated in one word; from the first other character on, the
word is refused. -/
def shortHelp {α : Type} (value : List Char) : Except Stop α :=
  let rest := value.dropWhile (· = 'h')
  if value ≠ [] ∧ rest = [] then .error .help else ignoredValue .help (String.ofList rest)

def integerValue (flag : Flag) (value : String) : Except Stop Int :=
  match Text.integer? value.toList with
  | some n => .ok n
  | none => refuse flag s!"invalid int value: {Text.quoted value}"

/-- One of several named values. -/
def choice {α : Type} (flag : Flag) (name : α → String) (all : List α) (value : String) :
    Except Stop α :=
  match all.find? fun a => name a == value with
  | some a => .ok a
  | none =>
    let names := ", ".intercalate (all.map fun a => Text.quoted (name a))
    refuse flag s!"invalid choice: {Text.quoted value} (choose from {names})"

def modeValue (value : String) : Except Stop DataMode :=
  choice .mode DataMode.value DataMode.all value

/-- A log level by its name, in any case. -/
def levelValue (value : String) : Except Stop LogLevel :=
  choice .level LogLevel.name LogLevel.all (String.ofList (Text.upper value.toList))

/-- Reads a value, unless it is the separator. -/
def unlessWithheld {α : Type} (read : String → Except Stop α) (value : String) :
    Except Stop (Option α) :=
  if value = "--" then .ok none else (read value).map some

/-- Takes an option with its value. -/
def takeValue (a : Arguments) (flag : Flag) (value : String) : Except Stop Arguments :=
  match flag with
  | .help | .negotiate => ignoredValue flag value
  | .host => do return { a with host := ← unlessWithheld .ok value }
  | .port => do return { a with port := ← unlessWithheld (integerValue flag) value }
  | .timeout => do return { a with timeoutMillis := ← unlessWithheld (integerValue flag) value }
  | .mode => do return { a with mode := ← unlessWithheld modeValue value }
  | .level => do return { a with level := ← unlessWithheld levelValue value }

namespace Progress

/-- An option ends the run of commands if it is under way. -/
def endRun (p : Progress) : Progress :=
  { p with run := if p.run = .underWay then .past else p.run }

def reject (p : Progress) (s : String) : Progress :=
  { p with rejected := p.rejected ++ [s] }

def takePlain (p : Progress) (s : String) : Progress :=
  if p.run = .past then p.reject s
  else
    { p with
      run := .underWay
      arguments := { p.arguments with commands := p.arguments.commands ++ [s] } }

def takeSeparator (p : Progress) : Progress :=
  if p.run = .past then p.reject "--" else { p with run := .underWay }

end Progress

/-- Takes the words one by one. An option without a value of its own takes the next word, if
that is plain. -/
def take (p : Progress) : List Word → Except Stop Progress
  | [] => .ok p
  | .plain s :: rest => take (p.takePlain s) rest
  | .separator :: rest => take p.takeSeparator rest
  | .unknown s :: rest => take (p.endRun.reject s) rest
  | .shortHelp value :: _ => shortHelp value
  | .option flag (some value) :: rest => do
    let arguments ← takeValue p.arguments flag value
    take { p.endRun with arguments } rest
  | .option .help none :: _ => .error .help
  | .option .negotiate none :: rest =>
    take { p.endRun with arguments := { p.arguments with negotiate := true } } rest
  | .option flag none :: .plain value :: rest => do
    let arguments ← takeValue p.arguments flag value
    take { p.endRun with arguments } rest
  | .option flag none :: _ => refuse flag "expected one argument"

def Arguments.parse (defaults : Settings) (line : List String) : Except Stop Arguments :=
  match words line with
  | .error why => .error (.usage why)
  | .ok ws => do
    let p ← take { arguments := .ofSettings defaults } ws
    if p.rejected.isEmpty then return p.arguments
    else .error (.usage ("unrecognized arguments: " ++ " ".intercalate p.rejected))

end FtpControl.CommandLine
