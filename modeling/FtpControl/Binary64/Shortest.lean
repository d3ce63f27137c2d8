import FtpControl.Binary64

/-!
# Shortest decimals

The decimal with the fewest digits that reads back as a given double-precision number. On the
grid of that many digits two decimals lie next to the number; if both read back, the nearer
one is taken, and in a tie the even one.
-/

namespace FtpControl

/-- The number `digits * 10 ^ exponent`. -/
structure Decimal where
  digits : Nat
  exponent : Int
deriving DecidableEq, Repr

namespace Decimal

/-- The double-precision number nearest to a decimal, if it is not too large. -/
def toBinary64? (negative : Bool) (d : Decimal) : Option Binary64 :=
  if 0 ≤ d.exponent then
    Binary64.ofRatio? negative (d.digits * Nat.pow 10 d.exponent.toNat) 1
  else Binary64.ofRatio? negative d.digits (Nat.pow 10 (-d.exponent).toNat)

/-- The decimal in digits. A number below `10 ^ 16`, and not below `10 ^ -4`, has its point in
place and a digit on either side of it; any other is written with an exponent of at least two
digits. -/
def text (d : Decimal) : String :=
  let all := (toString d.digits).toList
  let ds := (all.reverse.dropWhile (· = '0')).reverse
  let point : Int := all.length + d.exponent
  let zeros (n : Int) : List Char := List.replicate n.toNat '0'
  if ds = [] then "0.0"
  else if -4 < point ∧ point ≤ 16 then
    if point ≤ 0 then String.ofList ("0.".toList ++ zeros (-point) ++ ds)
    else if ds.length ≤ point then String.ofList (ds ++ zeros (point - ds.length) ++ ".0".toList)
    else String.ofList (ds.take point.toNat ++ '.' :: ds.drop point.toNat)
  else
    let size := (toString (point - 1).natAbs).toList
    let fraction := if ds.length = 1 then [] else '.' :: ds.drop 1
    let sign := if point < 1 then '-' else '+'
    String.ofList (ds.take 1 ++ fraction ++ 'e' :: sign :: zeros (2 - size.length) ++ size)

end Decimal

namespace Binary64

/-- Whether a decimal, with the sign of `x`, reads back as `x`. -/
def readsBack (x : Binary64) (d : Decimal) : Bool :=
  (d.toBinary64? x.negative).map bits == some x.bits

/-- Every double that is not zero is above `10 ^ -400`. -/
def guardDigits : Nat := 400

/-- The decimal of a given number of digits that is next to `x` and reads back, if there is
one. -/
def onGrid? (x : Binary64) (count : Nat) : Option Decimal :=
  let (n, d) := scale (x.mantissa * Nat.pow 10 guardDigits) 1 (-x.exponent)
  let width := (toString (n / d)).length
  let unit := Nat.pow 10 (width - count)
  let exponent : Int := (width - count : Nat) - (guardDigits : Int)
  let low := n / d / unit
  let below : Decimal := ⟨low, exponent⟩
  let above : Decimal := ⟨low + 1, exponent⟩
  let middle := (2 * low + 1) * unit * d
  let preferred := if 2 * n < middle ∨ (2 * n = middle ∧ low % 2 = 0) then [below, above]
    else [above, below]
  preferred.find? x.readsBack

theorem readsBack_of_onGrid? {x : Binary64} {count : Nat} {d : Decimal}
    (h : x.onGrid? count = some d) : x.readsBack d = true :=
  List.find?_some h

/-- The shortest decimal; seventeen digits are enough for every number. -/
def shortest (x : Binary64) : Decimal :=
  ((List.range 17).findSome? fun k => x.onGrid? (k + 1)).getD ⟨0, 0⟩

/-- The number in the fewest digits that read back. -/
def text (x : Binary64) : String :=
  (if x.negative then "-" else "") ++ x.shortest.text

end Binary64

end FtpControl
