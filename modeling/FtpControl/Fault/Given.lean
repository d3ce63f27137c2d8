import FtpControl.Failure
import FtpControl.Literal

/-!
# Faults from given parts

A fault can also be put together by hand, from a kind, a message and whatever the caller has
for a reply code. A code that is not a number in any form counts as none, and with one that
is infinite there is no fault.
-/

namespace FtpControl

/-- The number that a code stands for, if any: a decimal loses its fraction, a text is read as
a numeral, and a flag is 0 or 1. -/
def Literal.code? : Literal → Except Failure (Option Int)
  | .integer n => .ok (some n)
  | .decimal x => .ok (some x.truncate)
  | .infinity _ => .error .infinite
  | .text s => .ok (Text.integer? s.toList)
  | .flag b => .ok (some (if b then 1 else 0))
  | _ => .ok none

/-- The kind of fault that is named by its value. -/
def Literal.faultKind? : Literal → Option FaultKind
  | .text s => FaultKind.ofValue? s
  | _ => none

def Fault.given (kind : FaultKind) (message : String) (code : Literal) (text : Option String) :
    Except Failure Fault := do
  return .other kind message (← code.code?) text

/-- As `Fault.given`, with the kind named by its value. -/
def Fault.ofParts (kind : Literal) (message : String) (code : Literal) (text : Option String) :
    Except Failure Fault :=
  match kind.faultKind? with
  | some kind => Fault.given kind message code text
  | none => .error (.value (.unknownKind kind.shown))

end FtpControl
