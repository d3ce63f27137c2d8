import FtpControl.Binary64
import Mathlib.Tactic

/-!
# Rounding to double precision

A quotient is rounded to a double that no other double is nearer to. The exponent is chosen so
that the quotient has 53 binary digits before the point: the doubles of that exponent or of a
greater one are then whole numbers, and those of a smaller exponent lie below them all.
-/

namespace FtpControl.Binary64

/-- The number that is meant. -/
def value (x : Binary64) : ℚ :=
  (if x.negative then -1 else 1) * (x.mantissa * 2 ^ x.exponent)

/-- A mantissa of 53 bits, whose last stands for `2 ^ -1074` at least; `2 ^ 53` itself may be
written as `2 ^ 52` with the next exponent. There is no bound above. -/
def Fits (x : Binary64) : Prop :=
  x.mantissa ≤ 2 ^ 53 ∧ -1074 ≤ x.exponent

/-- A double that no other is nearer to `q`. -/
structure Nearest (q : ℚ) (x : Binary64) : Prop where
  fits : x.Fits
  near : ∀ y : Binary64, y.Fits → |x.value - q| ≤ |y.value - q|

variable {n d : Nat} {e : Int} {r : ℚ}

/-! ## Scaling -/

theorem scale_pos (hd : 0 < d) : 0 < (scale n d e).2 := by
  unfold scale
  split_ifs
  · exact Nat.mul_pos hd (Nat.two_pow_pos _)
  · exact hd

theorem scale_zero : (scale 0 d e).1 = 0 := by
  unfold scale
  split_ifs
  · rfl
  · exact Nat.zero_mul _

theorem scale_div : ((scale n d e).1 : ℚ) / (scale n d e).2 = n / d / 2 ^ e := by
  unfold scale
  split_ifs with he
  · obtain ⟨k, rfl⟩ := Int.eq_ofNat_of_zero_le he
    simp [div_div]
  · obtain ⟨k, hk⟩ := Int.eq_ofNat_of_zero_le (neg_nonneg.mpr (not_le.mp he).le)
    obtain rfl : e = -(k : Int) := by omega
    simp [mul_div_right_comm]

theorem nat_div_lt_iff {k : Nat} (hd : 0 < d) : n / d < k ↔ (n / d : ℚ) < k := by
  have hpos : (0 : ℚ) < d := by exact_mod_cast hd
  rw [Nat.div_lt_iff_lt_mul hd, div_lt_iff₀ hpos]
  exact_mod_cast Iff.rfl

/-! ## The exponent -/

/-- The quotient of two powers of two by which `n / d` is bounded. -/
theorem two_zpow_log2_bounds (hn : 0 < n) (hd : 0 < d) :
    (2 : ℚ) ^ ((n.log2 : Int) - d.log2 - 1) < n / d ∧
      (n / d : ℚ) < 2 ^ ((n.log2 : Int) - d.log2 + 1) := by
  have hdpos : (0 : ℚ) < d := by exact_mod_cast hd
  have low : ∀ {k : Nat}, 0 < k → (2 : ℚ) ^ (k.log2 : Int) ≤ k := by
    intro k hk
    exact_mod_cast Nat.log2_self_le hk.ne'
  have high : ∀ {k : Nat}, 0 < k → (k : ℚ) < 2 ^ ((k.log2 : Int) + 1) := by
    intro k _
    exact_mod_cast Nat.lt_log2_self
  constructor
  · rw [lt_div_iff₀ hdpos]
    calc (2 : ℚ) ^ ((n.log2 : Int) - d.log2 - 1) * d
        < 2 ^ ((n.log2 : Int) - d.log2 - 1) * 2 ^ ((d.log2 : Int) + 1) := by
          gcongr
          exact high hd
      _ = 2 ^ (n.log2 : Int) := by
          rw [← zpow_add₀ two_ne_zero]
          congr 1
          ring
      _ ≤ n := low hn
  · rw [div_lt_iff₀ hdpos]
    calc (n : ℚ) < 2 ^ ((n.log2 : Int) + 1) := high hn
      _ = 2 ^ ((n.log2 : Int) - d.log2 + 1) * 2 ^ (d.log2 : Int) := by
          rw [← zpow_add₀ two_ne_zero]
          congr 1
          ring
      _ ≤ 2 ^ ((n.log2 : Int) - d.log2 + 1) * d := by
          gcongr
          exact low hd

theorem le_exponentOf (n d : Nat) : -1074 ≤ exponentOf n d :=
  le_max_right _ _

/-- The exponent is one of two, unless that is less than the least. -/
theorem exponentOf_cases (n d : Nat) :
    ∃ first e : Int, first = (n.log2 : Int) - d.log2 - 52 ∧ exponentOf n d = max e (-1074) ∧
      (((scale n d first).1 / (scale n d first).2 < 2 ^ 52 ∧ e = first - 1) ∨
        (2 ^ 52 ≤ (scale n d first).1 / (scale n d first).2 ∧ e = first)) := by
  by_cases h : (scale n d ((n.log2 : Int) - d.log2 - 52)).1 /
      (scale n d ((n.log2 : Int) - d.log2 - 52)).2 < 2 ^ 52
  · exact ⟨_, _, rfl, congrArg (max · (-1074)) (if_pos h), .inl ⟨h, rfl⟩⟩
  · exact ⟨_, _, rfl, congrArg (max · (-1074)) (if_neg h), .inr ⟨not_lt.mp h, rfl⟩⟩

/-- At that exponent a quotient has 53 digits before the point. -/
theorem div_bounds_of_cases {first e : Int} (hn : 0 < n) (hd : 0 < d)
    (hfirst : first = (n.log2 : Int) - d.log2 - 52)
    (h : ((scale n d first).1 / (scale n d first).2 < 2 ^ 52 ∧ e = first - 1) ∨
      (2 ^ 52 ≤ (scale n d first).1 / (scale n d first).2 ∧ e = first)) :
    (n / d / 2 ^ e : ℚ) < 2 ^ 53 ∧ (2 : ℚ) ^ 52 ≤ n / d / 2 ^ e := by
  obtain ⟨hlow, hhigh⟩ := two_zpow_log2_bounds hn hd
  have hfew := nat_div_lt_iff (n := (scale n d first).1) (k := 2 ^ 52) (scale_pos (n := n)
    (e := first) hd)
  rw [scale_div] at hfew
  have hpow : ∀ e : Int, (0 : ℚ) < 2 ^ e := fun e => zpow_pos two_pos e
  rw [div_lt_iff₀ (hpow e), le_div_iff₀ (hpow e)]
  obtain ⟨h, rfl⟩ | ⟨h, rfl⟩ := h
  · have hdigits : (n / d / 2 ^ first : ℚ) < 2 ^ 52 := by exact_mod_cast hfew.mp h
    rw [div_lt_iff₀ (hpow first)] at hdigits
    constructor
    · calc (n / d : ℚ) < 2 ^ 52 * 2 ^ first := hdigits
        _ = 2 ^ 53 * 2 ^ (first - 1) := by
          rw [zpow_sub_one₀ two_ne_zero]
          ring
    · calc (2 : ℚ) ^ 52 * 2 ^ (first - 1) = 2 ^ ((n.log2 : Int) - d.log2 - 1) := by
            rw [← zpow_natCast, ← zpow_add₀ two_ne_zero, hfirst]
            congr 1
            push_cast
            ring
        _ ≤ n / d := hlow.le
  · have hdigits : ¬ (n / d / 2 ^ e : ℚ) < 2 ^ 52 := by
      intro hlt
      exact absurd (hfew.mpr (by exact_mod_cast hlt)) (not_lt.mpr h)
    rw [not_lt, le_div_iff₀ (hpow e)] at hdigits
    refine ⟨?_, hdigits⟩
    calc (n / d : ℚ) < 2 ^ ((n.log2 : Int) - d.log2 + 1) := hhigh
      _ = 2 ^ 53 * 2 ^ e := by
        rw [← zpow_natCast, ← zpow_add₀ two_ne_zero, hfirst]
        congr 1
        push_cast
        ring

/-- At the exponent chosen a quotient has at most 53 digits before the point, and no fewer unless
the exponent is the least. -/
theorem div_exponentOf_bounds (hn : 0 < n) (hd : 0 < d) :
    (n / d / 2 ^ exponentOf n d : ℚ) < 2 ^ 53 ∧
      (-1074 < exponentOf n d → (2 : ℚ) ^ 52 ≤ n / d / 2 ^ exponentOf n d) := by
  obtain ⟨first, e, hfirst, hmax, h⟩ := exponentOf_cases n d
  obtain ⟨hhigh, hlow⟩ := div_bounds_of_cases hn hd hfirst h
  rw [hmax]
  constructor
  · calc (n / d / 2 ^ max e (-1074) : ℚ) ≤ n / d / 2 ^ e := by
          gcongr
          · exact one_le_two
          · exact le_max_left _ _
      _ < 2 ^ 53 := hhigh
  · intro hless
    have hsame : max e (-1074) = e := max_eq_left_of_lt (by simpa using hless)
    rw [hsame]
    exact hlow

/-! ## Rounding -/

theorem abs_nearestEven_sub_le (hd : 0 < d) : |(nearestEven n d : ℚ) - n / d| ≤ 1 / 2 := by
  have hpos : (0 : ℚ) < d := by exact_mod_cast hd
  obtain ⟨hhigh, hlow⟩ := nearestEven_near n hd
  have hhigh' : (2 * (nearestEven n d * d) : ℚ) ≤ 2 * n + d := by exact_mod_cast hhigh
  have hlow' : (2 * n : ℚ) ≤ 2 * (nearestEven n d * d) + d := by exact_mod_cast hlow
  rw [abs_le]
  constructor
  · rw [le_sub_iff_add_le, add_comm, ← sub_eq_add_neg, sub_le_iff_le_add, div_le_iff₀ hpos]
    linarith
  · rw [sub_le_iff_le_add, ← sub_le_iff_le_add', le_div_iff₀ hpos]
    linarith

theorem nearestEven_zero (hd : 0 < d) : nearestEven 0 d = 0 := by
  have hd' : ¬ 0 = d := hd.ne
  simp [nearestEven, hd']

/-- No whole number is nearer than one that is half a unit away at most. -/
theorem abs_sub_le_of_half {m k : Int} (h : |(m : ℚ) - r| ≤ 1 / 2) :
    |(m : ℚ) - r| ≤ |(k : ℚ) - r| := by
  by_cases hk : k = m
  · rw [hk]
  have hapart : (1 : ℚ) ≤ |(k : ℚ) - m| := by
    exact_mod_cast Int.one_le_abs (sub_ne_zero.mpr hk)
  have htriangle : |(k : ℚ) - m| ≤ |(k : ℚ) - r| + |r - m| := abs_sub_le _ _ _
  rw [abs_sub_comm r] at htriangle
  linarith

/-- In units of `2 ^ e` a number of 53 digits is whole, or it has a smaller exponent. -/
theorem abs_mul_zpow_sub_le {m k : Nat} {f : Int} (hhalf : |(m : ℚ) - r| ≤ 1 / 2)
    (hbig : f < e → (2 : ℚ) ^ 52 ≤ r) (hk : k ≤ 2 ^ 53) :
    |(m : ℚ) - r| ≤ |(k : ℚ) * 2 ^ (f - e) - r| := by
  by_cases hf : f < e
  · have hedge : |(m : ℚ) - r| ≤ |(2 : ℚ) ^ 52 - r| := by
      have h := abs_sub_le_of_half (m := m) (k := 2 ^ 52) (r := r) (by exact_mod_cast hhalf)
      exact_mod_cast h
    have hbelow : (k : ℚ) * 2 ^ (f - e) ≤ 2 ^ 52 := by
      calc (k : ℚ) * 2 ^ (f - e) ≤ 2 ^ 53 * 2 ^ (-1 : Int) := by
            gcongr
            · exact_mod_cast hk
            · exact one_le_two
            · omega
        _ = 2 ^ 52 := by norm_num
    have hr := hbig hf
    rw [abs_sub_comm ((2 : ℚ) ^ 52), abs_of_nonneg (sub_nonneg.mpr hr)] at hedge
    rw [abs_sub_comm ((k : ℚ) * _), abs_of_nonneg (sub_nonneg.mpr (hbelow.trans hr))]
    linarith
  · obtain ⟨j, hj⟩ := Int.eq_ofNat_of_zero_le (sub_nonneg.mpr (not_lt.mp hf))
    rw [hj]
    have h := abs_sub_le_of_half (m := m) (k := k * 2 ^ j) (r := r) (by exact_mod_cast hhalf)
    exact_mod_cast h

theorem abs_value (x : Binary64) : |x.value| = x.mantissa * 2 ^ x.exponent := by
  have hpos : (0 : ℚ) ≤ x.mantissa * 2 ^ x.exponent := by positivity
  unfold value
  split_ifs
  · rw [neg_one_mul, abs_neg, abs_of_nonneg hpos]
  · rw [one_mul, abs_of_nonneg hpos]

/-- The signed quotient. -/
def quotient (negative : Bool) (n d : Nat) : ℚ :=
  (if negative then -1 else 1) * (n / d)

theorem abs_quotient (negative : Bool) (n d : Nat) : |quotient negative n d| = n / d := by
  have hpos : (0 : ℚ) ≤ n / d := by positivity
  unfold quotient
  split_ifs
  · rw [neg_one_mul, abs_neg, abs_of_nonneg hpos]
  · rw [one_mul, abs_of_nonneg hpos]

/-- What a quotient is rounded to in units of `2 ^ e`. -/
theorem ofRatio?_eq_some {negative : Bool} {x : Binary64} (h : ofRatio? negative n d = some x) :
    x = ⟨negative, nearestEven (scale n d (exponentOf n d)).1 (scale n d (exponentOf n d)).2,
      exponentOf n d⟩ := by
  unfold ofRatio? at h
  dsimp only at h
  split at h
  · exact (Option.some.inj h).symm
  · cases h

/-- What is nearest among the whole numbers is so among the doubles. -/
theorem nearest_of_half {negative : Bool} {m : Nat} (hleast : -1074 ≤ e)
    (hhalf : |(m : ℚ) - n / d / 2 ^ e| ≤ 1 / 2) (hhigh : (n / d / 2 ^ e : ℚ) < 2 ^ 53)
    (hlow : -1074 < e → (2 : ℚ) ^ 52 ≤ n / d / 2 ^ e) :
    Nearest (quotient negative n d) ⟨negative, m, e⟩ := by
  have hpow : (0 : ℚ) < 2 ^ e := zpow_pos two_pos e
  have scaled : ∀ k : ℚ, |k - n / d / 2 ^ e| * 2 ^ e = |k * 2 ^ e - n / d| := by
    intro k
    rw [← abs_of_pos hpow, ← abs_mul, abs_of_pos hpow, sub_mul, div_mul_cancel₀ _ hpow.ne']
  constructor
  · refine ⟨?_, hleast⟩
    have hm : (m : ℚ) < 2 ^ 53 + 1 := by linarith [(abs_le.mp hhalf).2]
    exact Nat.lt_succ_iff.mp (by exact_mod_cast hm)
  · rintro y ⟨hmantissa, hexponent⟩
    have hnear := abs_mul_zpow_sub_le (e := e) (f := y.exponent) hhalf
      (fun hf => hlow (hexponent.trans_lt hf)) hmantissa
    calc |value ⟨negative, m, e⟩ - quotient negative n d|
        = |(m : ℚ) * 2 ^ e - n / d| := by
          unfold value quotient
          rw [← mul_sub, abs_mul]
          cases negative <;> simp
      _ = |(m : ℚ) - n / d / 2 ^ e| * 2 ^ e := (scaled m).symm
      _ ≤ |(y.mantissa : ℚ) * 2 ^ (y.exponent - e) - n / d / 2 ^ e| * 2 ^ e :=
          mul_le_mul_of_nonneg_right hnear hpow.le
      _ = |(y.mantissa : ℚ) * 2 ^ y.exponent - n / d| := by
          rw [scaled, mul_assoc, ← zpow_add₀ two_ne_zero, sub_add_cancel]
      _ = |(|y.value|) - (|quotient negative n d|)| := by rw [abs_value, abs_quotient]
      _ ≤ |y.value - quotient negative n d| := abs_abs_sub_abs_le _ _

theorem nearest_zero {x : Binary64} (hx : x.Fits) (hzero : x.mantissa = 0) : x.Nearest 0 := by
  refine ⟨hx, fun y _ => ?_⟩
  have hvalue : x.value = 0 := by simp [value, hzero]
  rw [hvalue, sub_self, abs_zero]
  exact abs_nonneg _

/-- Of the doubles, the one that a quotient is rounded to is nearest to it. -/
theorem nearest_of_ofRatio? {negative : Bool} {x : Binary64} (hd : 0 < d)
    (h : ofRatio? negative n d = some x) : x.Nearest (quotient negative n d) := by
  rw [ofRatio?_eq_some h]
  rcases Nat.eq_zero_or_pos n with rfl | hn
  · have hnone : nearestEven (scale 0 d (exponentOf 0 d)).1 (scale 0 d (exponentOf 0 d)).2 = 0 := by
      rw [scale_zero, nearestEven_zero (scale_pos hd)]
    have hquotient : quotient negative 0 d = 0 := by simp [quotient]
    rw [hquotient]
    exact nearest_zero ⟨by simp [hnone], le_exponentOf 0 d⟩ hnone
  · obtain ⟨hhigh, hlow⟩ := div_exponentOf_bounds hn hd
    apply nearest_of_half (le_exponentOf n d) _ hhigh hlow
    rw [← scale_div]
    exact abs_nearestEven_sub_le (scale_pos hd)

theorem nearest_of_ofInt? {i : Int} {x : Binary64} (h : ofInt? i = some x) : x.Nearest i := by
  have hnear := nearest_of_ofRatio? Nat.one_pos h
  have hquotient : quotient (i < 0) i.natAbs 1 = i := by
    unfold quotient
    by_cases hi : i < 0
    · simp [hi, abs_of_neg]
    · simp [hi, abs_of_nonneg (not_lt.mp hi)]
  rwa [hquotient] at hnear

theorem nearest_of_divNat? {x y : Binary64} {d : Nat} (hd : 0 < d) (h : x.divNat? d = some y) :
    y.Nearest (x.value / d) := by
  have hnear := nearest_of_ofRatio? (n := (scale x.mantissa d (-x.exponent)).1)
    (scale_pos (n := x.mantissa) (e := -x.exponent) hd) h
  have hquotient : quotient x.negative (scale x.mantissa d (-x.exponent)).1
      (scale x.mantissa d (-x.exponent)).2 = x.value / d := by
    unfold quotient value
    rw [scale_div, zpow_neg, div_inv_eq_mul, mul_div_assoc, div_mul_eq_mul_div]
  rwa [hquotient] at hnear

end FtpControl.Binary64
