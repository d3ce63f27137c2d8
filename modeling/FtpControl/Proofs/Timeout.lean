import FtpControl.Proofs.Binary64
import FtpControl.Timeout
import Mathlib.Algebra.Order.Floor.Div

/-!
# What limits amount to

A limit is the nearest double of a thousandth of the milliseconds given, and no limit at zero. The
socket then rounds it up to whole nanoseconds.
-/

namespace FtpControl

namespace Binary64

variable {x y : Binary64} {q : ℚ}

theorem Nearest.value_eq (h : x.Nearest q) (hy : y.Fits) (hq : y.value = q) : x.value = q := by
  have hle := h.near y hy
  rw [hq, sub_self, abs_zero] at hle
  exact sub_eq_zero.mp (abs_nonpos_iff.mp hle)

theorem Nearest.value_eq_int {i : Int} (h : x.Nearest i) (hi : i.natAbs ≤ 2 ^ 53) :
    x.value = i := by
  apply h.value_eq (y := ⟨i < 0, i.natAbs, 0⟩) ⟨hi, by simp⟩
  unfold value
  by_cases hneg : i < 0
  · simp [hneg, abs_of_neg]
  · simp [hneg, abs_of_nonneg (not_lt.mp hneg)]

theorem nearest_of_mulNat? {k : Nat} (h : x.mulNat? k = some y) : y.Nearest (x.value * k) := by
  have hnear := nearest_of_ofRatio? (n := (scale (x.mantissa * k) 1 (-x.exponent)).1)
    (scale_pos (n := x.mantissa * k) (e := -x.exponent) Nat.one_pos) h
  have hquotient : quotient x.negative (scale (x.mantissa * k) 1 (-x.exponent)).1
      (scale (x.mantissa * k) 1 (-x.exponent)).2 = x.value * k := by
    unfold quotient value
    rw [scale_div, zpow_neg, div_inv_eq_mul]
    push_cast
    ring
  rwa [hquotient] at hnear

theorem roundUp_eq (x : Binary64) : x.roundUp = ⌈|x.value|⌉₊ := by
  have hpos : 0 < (scale x.mantissa 1 (-x.exponent)).2 := scale_pos Nat.one_pos
  have hvalue : |x.value| = ((scale x.mantissa 1 (-x.exponent)).1 : ℚ) /
      (scale x.mantissa 1 (-x.exponent)).2 := by
    rw [scale_div, zpow_neg, div_inv_eq_mul, abs_value]
    simp
  have hpos' : (0 : ℚ) < (scale x.mantissa 1 (-x.exponent)).2 := by exact_mod_cast hpos
  apply eq_of_forall_ge_iff
  intro k
  calc x.roundUp ≤ k
      ↔ (scale x.mantissa 1 (-x.exponent)).1 ≤ (scale x.mantissa 1 (-x.exponent)).2 * k :=
        ceilDiv_le_iff_le_mul hpos
    _ ↔ |x.value| ≤ k := by
        rw [hvalue, div_le_iff₀ hpos', mul_comm]
        exact_mod_cast Iff.rfl
    _ ↔ ⌈|x.value|⌉₊ ≤ k := Nat.ceil_le.symm

end Binary64

namespace Timeout

variable {millis : Int} {limit given kept : Timeout}

/-- What so many milliseconds amount to: no limit if there are none, else the nearest double of a
thousandth of them, themselves a double. -/
inductive Thousandth (millis : Int) : Timeout → Prop
  | unlimited (h : millis = 0) : Thousandth millis .unlimited
  | seconds {x s : Binary64} (h : millis ≠ 0) (hx : x.Nearest millis)
      (hs : s.Nearest (x.value / 1000)) : Thousandth millis (.seconds s)

theorem thousandth_of_ofMillis (h : ofMillis millis = .ok limit) : limit.Thousandth millis := by
  unfold ofMillis at h
  split at h
  case isTrue hzero =>
    cases h
    exact .unlimited hzero
  case isFalse hzero =>
    split at h
    case h_1 s hs =>
      cases h
      obtain ⟨x, hx, hdiv⟩ := Option.bind_eq_some_iff.mp hs
      have hs := Binary64.nearest_of_divNat? (by decide) hdiv
      exact .seconds hzero (Binary64.nearest_of_ofInt? hx) (by exact_mod_cast hs)
    case h_2 => cases h

/-- The milliseconds are a double themselves up to 285 thousand years. -/
theorem Thousandth.nearest {s : Binary64} (h : (Timeout.seconds s).Thousandth millis)
    (hmillis : millis.natAbs ≤ 2 ^ 53) : s.Nearest (millis / 1000) := by
  cases h with
  | seconds _ hx hs => rwa [hx.value_eq_int hmillis] at hs

/-- Of 1500 milliseconds it is one and a half seconds. -/
example : (ofMillis 1500).toOption = some (.seconds ⟨false, 3 * 2 ^ 51, -52⟩) := by
  decide

/-- What a socket keeps of a limit: whole nanoseconds, rounded up from their number as a double.
Within 104 days it then says the nearest double of as many seconds. -/
inductive Kept : Timeout → Timeout → Prop
  | unlimited : Kept .unlimited .unlimited
  | seconds {s p t : Binary64} {ns : Nat} (hp : p.Nearest (s.value * 1000000000))
      (hns : ns = ⌈|p.value|⌉₊) (ht : ns ≤ 2 ^ 53 → t.Nearest (ns / 1000000000)) :
      Kept (.seconds s) (.seconds t)

theorem nearest_of_ofNanoseconds? {ns : Nat} {t : Binary64} (h : ofNanoseconds? ns = some t)
    (hns : ns ≤ 2 ^ 53) : t.Nearest (ns / 1000000000) := by
  unfold ofNanoseconds? at h
  split at h
  case isTrue hwhole =>
    have ht := Binary64.nearest_of_ofInt? h
    obtain ⟨k, rfl⟩ := Nat.dvd_of_mod_eq_zero hwhole
    rw [Nat.mul_div_cancel_left k (by decide)] at ht
    have hk : ((1000000000 * k : Nat) : ℚ) / 1000000000 = k := by
      push_cast
      exact mul_div_cancel_left₀ _ (by norm_num)
    rw [hk]
    exact_mod_cast ht
  case isFalse =>
    obtain ⟨x, hx, hdiv⟩ := Option.bind_eq_some_iff.mp h
    have ht := Binary64.nearest_of_divNat? (by decide) hdiv
    rw [(Binary64.nearest_of_ofInt? hx).value_eq_int (by simpa using hns)] at ht
    simpa using ht

theorem kept_of_kept? (h : given.kept? = some kept) : given.Kept kept := by
  cases given with
  | unlimited =>
    cases h
    exact .unlimited
  | seconds s =>
    obtain ⟨t, ht, rfl⟩ := Option.map_eq_some_iff.mp h
    obtain ⟨ns, hns, ht⟩ := Option.bind_eq_some_iff.mp ht
    obtain ⟨p, hp, rfl⟩ := Option.map_eq_some_iff.mp hns
    refine .seconds ?_ (Binary64.roundUp_eq p) (nearest_of_ofNanoseconds? ht)
    exact_mod_cast Binary64.nearest_of_mulNat? hp

end Timeout

end FtpControl
