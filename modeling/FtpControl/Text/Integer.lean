import FtpControl.Text.Blank
import FtpControl.Text.Digit

/-!
# Integers in text

A numeral may have a sign, single underscores between its digits, digits of any script and
blanks around it. It has at most 4300 digits, leading zeros included.
-/

namespace FtpControl.Text

/-- Most digits that a numeral may have. -/
def maxDigits : Nat := 4300

/-- Blanks that may surround a numeral; the four information separators may not. -/
def isPadding (c : Char) : Bool :=
  isBlank c && !(0x1C ≤ c.toNat && c.toNat ≤ 0x1F)

def trimPadding (cs : List Char) : List Char :=
  ((cs.dropWhile isPadding).reverse.dropWhile isPadding).reverse

/-- The digits of a numeral without its sign. -/
def numeral? : List Char → Option (List Nat)
  | [] => none
  | [c] => (decimalValue? c).map ([·])
  | c :: '_' :: cs => do return (← decimalValue? c) :: (← numeral? cs)
  | c :: cs => do return (← decimalValue? c) :: (← numeral? cs)

def natural? (cs : List Char) : Option Nat := do
  let digits ← numeral? cs
  if digits.length ≤ maxDigits then some (ofDigits digits) else none

def integer? (cs : List Char) : Option Int :=
  match trimPadding cs with
  | '+' :: cs => (natural? cs).map Int.ofNat
  | '-' :: cs => (natural? cs).map fun n => -(n : Int)
  | cs => (natural? cs).map Int.ofNat

end FtpControl.Text
