/-!
# Double-precision numbers

Exact rounding of a quotient of natural numbers to the nearest number `m * 2 ^ e` with
`m` below `2 ^ 53`, and the 64 bits of the result. A tie goes to the even neighbour.
-/

namespace FtpControl

/-- A finite double-precision number: `mantissa * 2 ^ exponent`, with a sign. -/
structure Binary64 where
  negative : Bool
  mantissa : Nat
  exponent : Int
deriving DecidableEq, Repr

namespace Binary64

/-- The natural number nearest to `n / d`; a tie goes to the even one. -/
def nearestEven (n d : Nat) : Nat :=
  if d < 2 * (n % d) ∨ (2 * (n % d) = d ∧ n / d % 2 = 1) then n / d + 1 else n / d

/-- The result lies at most half a unit away. -/
theorem nearestEven_near (n : Nat) {d : Nat} (h : 0 < d) :
    2 * (nearestEven n d * d) ≤ 2 * n + d ∧ 2 * n ≤ 2 * (nearestEven n d * d) + d := by
  have hn := Nat.div_add_mod n d
  have hr := Nat.mod_lt n h
  rw [Nat.mul_comm] at hn
  unfold nearestEven
  split
  · rw [Nat.add_mul, Nat.one_mul]
    omega
  · omega

/-- The quotient `(n / d) / 2 ^ e` as numerator and denominator. -/
def scale (n d : Nat) (e : Int) : Nat × Nat :=
  if 0 ≤ e then (n, d * Nat.pow 2 e.toNat) else (n * Nat.pow 2 (-e).toNat, d)

/-- The exponent at which `n / d` has 53 binary digits before the point, or the least
exponent there is. -/
def exponentOf (n d : Nat) : Int :=
  let e : Int := (n.log2 : Int) - (d.log2 : Int) - 52
  let (a, b) := scale n d e
  max (if a / b < Nat.pow 2 52 then e - 1 else e) (-1074)

/-- The position among the non-negative numbers, which is also the bit pattern. -/
def magnitudeBits (x : Binary64) : Nat :=
  if x.mantissa = 0 then 0 else (x.exponent + 1074).toNat * Nat.pow 2 52 + x.mantissa

/-- The pattern of infinity; every finite number lies below it. -/
def infinityBits : Nat := 0x7FF * Nat.pow 2 52

/-- The number nearest to `n / d`, unless it is too large. -/
def ofRatio? (negative : Bool) (n d : Nat) : Option Binary64 :=
  let e := exponentOf n d
  let (a, b) := scale n d e
  let x : Binary64 := ⟨negative, nearestEven a b, e⟩
  if x.magnitudeBits < infinityBits then some x else none

theorem negative_of_ofRatio? {negative : Bool} {n d : Nat} {x : Binary64}
    (h : ofRatio? negative n d = some x) : x.negative = negative := by
  unfold ofRatio? at h
  dsimp only at h
  split at h
  · cases h
    rfl
  · cases h

def ofInt? (i : Int) : Option Binary64 :=
  ofRatio? (i < 0) i.natAbs 1

/-- The number nearest to `x / d`. -/
def divNat? (x : Binary64) (d : Nat) : Option Binary64 :=
  let (n, d) := scale x.mantissa d (-x.exponent)
  ofRatio? x.negative n d

/-- The number nearest to `x * k`. -/
def mulNat? (x : Binary64) (k : Nat) : Option Binary64 :=
  let (n, d) := scale (x.mantissa * k) 1 (-x.exponent)
  ofRatio? x.negative n d

/-- The least whole number that the magnitude does not exceed. -/
def roundUp (x : Binary64) : Nat :=
  let (n, d) := scale x.mantissa 1 (-x.exponent)
  (n + d - 1) / d

/-- The whole part. -/
def truncate (x : Binary64) : Int :=
  let (n, d) := scale x.mantissa 1 (-x.exponent)
  if x.negative then -((n / d : Nat) : Int) else ((n / d : Nat) : Int)

/-- The bit pattern: sign, exponent and fraction. -/
def bits (x : Binary64) : Nat :=
  (if x.negative then Nat.pow 2 63 else 0) + x.magnitudeBits

end Binary64

end FtpControl
