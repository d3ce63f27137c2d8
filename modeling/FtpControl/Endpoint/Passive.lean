import FtpControl.Endpoint.Codec
import FtpControl.Text.Blank
import FtpControl.Text.Integer
import FtpControl.Text.Upper

/-!
# Passive replies

The text of a 227 reply announces where the server listens. The tuple stands between
parentheses, or, in a text without any, behind the last word `MODE`. It is read once from
left to right; a comma may end it.
-/

namespace FtpControl.Endpoint

/-- What stands behind the last `MODE`. Its place is found in the capitals of the text and
counted off in the text itself. -/
def afterMode? (text : List Char) : Option (List Char) :=
  (Text.lastIndexOf? "MODE".toList (Text.upper text)).map fun i => Text.trim (text.drop (i + 4))

/-- The part of a passive reply that should hold the tuple. -/
def tupleRegion? (text : List Char) : Option (List Char) :=
  if '(' ∉ text ∧ ')' ∉ text then afterMode? text else Text.between? '(' ')' text

/-- The value of a component from its digits. -/
def component? (digits : List Char) : Option Int :=
  if digits = [] ∨ Text.maxDigits < digits.length then none
  else some (Text.ofDigits (digits.map Text.asciiValue) : Nat)

/-- The components of a tuple, `digits` being those of the component under way. A comma ends
a component, and so does the end of the region behind a digit. -/
def scan (digits : List Char) : List Char → Option (List Int)
  | [] => if digits = [] then some [] else do return [← component? digits]
  | c :: cs =>
    if Text.isAsciiDigit c then scan (digits ++ [c]) cs
    else if c = ',' then do return (← component? digits) :: (← scan [] cs)
    else none

/-- The endpoint that a passive reply announces. -/
def ofPassive (text : String) : Except Fault Endpoint :=
  match (tupleRegion? text.toList).bind (scan []) with
  | none => .error (.malformedPassive text)
  | some components =>
    if components.length = 6 then ofComponents components else .error (.malformedPassive text)

end FtpControl.Endpoint
