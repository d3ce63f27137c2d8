import FtpControl.Text.Digit
import FtpControl.Text.Quoted

/-!
# Words of a command line

Every word is an option, a plain word, or the separator behind which all words are plain. A
long option may be cut short as long as no other begins in the same way, and may carry its
value behind an equals sign.
-/

namespace FtpControl.CommandLine

inductive Flag where
  | help
  | host
  | port
  | timeout
  | mode
  | level
  | negotiate
deriving DecidableEq, Repr

namespace Flag

/-- How each option is spelt; the order is that of a list of candidates. -/
def spellings : List (String × Flag) :=
  [("-h", help), ("--help", help), ("--host", host), ("--port", port), ("--timeout-ms", timeout),
    ("--mode", mode), ("--log-level", level), ("--negotiate", negotiate)]

/-- How an option is called in a message. -/
def label : Flag → String
  | help => "-h/--help"
  | host => "--host"
  | port => "--port"
  | timeout => "--timeout-ms"
  | mode => "--mode"
  | level => "--log-level"
  | negotiate => "--negotiate"

end Flag

inductive Word where
  | plain (s : String)
  | separator
  | option (flag : Flag) (value : Option String)
  /-- The short help option with a value, which may be empty behind an equals sign. -/
  | shortHelp (value : List Char)
  | unknown (s : String)
deriving DecidableEq, Repr

/-- A number below zero: digits of any script with at most one point, which some digit
follows. A line feed may end the word. -/
def looksNegative (cs : List Char) : Bool :=
  match cs with
  | '-' :: body =>
    let body := if body.getLast? = some '\n' then body.dropLast else body
    let rest := body.dropWhile Text.isDecimal
    match rest with
    | [] => !body.isEmpty
    | '.' :: fraction => !fraction.isEmpty && fraction.all Text.isDecimal
    | _ => false
  | _ => false

/-- The part before the first equals sign, and the part behind it if there is one. -/
def splitValue (cs : List Char) : List Char × Option (List Char) :=
  match cs.dropWhile (· ≠ '=') with
  | [] => (cs, none)
  | _ :: value => (cs.takeWhile (· ≠ '='), some value)

/-- All long options that begin with a text. -/
def candidates (start : List Char) : List (String × Flag) :=
  Flag.spellings.filter fun e => start.isPrefixOf e.1.toList

/-- A word that begins with a hyphen and is no known option. -/
def unknownOption (s : String) : Word :=
  if looksNegative s.toList || s.toList.contains ' ' then .plain s else .unknown s

/-- A word before the separator. A long option that could be several ones is refused. -/
def Word.ofString (s : String) : Except String Word :=
  match s.toList with
  | '-' :: '-' :: _ =>
    let (name, value) := splitValue s.toList
    match Flag.spellings.lookup (String.ofList name), candidates name with
    | some flag, _ => .ok (.option flag (value.map String.ofList))
    | none, [] => .ok (unknownOption s)
    | none, [(_, flag)] => .ok (.option flag (value.map String.ofList))
    | none, several =>
      let names := ", ".intercalate (several.map (·.1))
      .error s!"ambiguous option: {s} could match {names}"
  | ['-', 'h'] => .ok (.option .help none)
  | '-' :: 'h' :: '=' :: value => .ok (.shortHelp value)
  | '-' :: 'h' :: value => .ok (.shortHelp value)
  | ['-'] => .ok (.plain s)
  | '-' :: _ => .ok (unknownOption s)
  | _ => .ok (.plain s)

def words : List String → Except String (List Word)
  | [] => .ok []
  | s :: rest =>
    if s = "--" then .ok (.separator :: rest.map .plain)
    else do return (← Word.ofString s) :: (← words rest)

end FtpControl.CommandLine
