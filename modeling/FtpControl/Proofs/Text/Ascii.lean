import FtpControl.Text.Utf8
import Mathlib.Tactic

/-!
# Basic characters in UTF-8

Each of the first 128 characters is written as the byte of its code, and no other character is
written with that byte. So a text has such a character as often as its bytes have its code.
-/

namespace FtpControl.Text

variable {c d : Char}

theorem ofNat_ne_ofNat {n k : Nat} (hn : n < 256) (hk : k < 256) (h : n ≠ k) :
    UInt8.ofNat n ≠ UInt8.ofNat k := by
  intro he
  have hcodes := congrArg UInt8.toNat he
  simp [Nat.mod_eq_of_lt hn, Nat.mod_eq_of_lt hk] at hcodes
  exact h hcodes

theorem encodeChar_of_basic (hc : c.toNat < 0x80) :
    String.utf8EncodeChar c = [UInt8.ofNat c.toNat] := by
  have hlow : c.val.toNat ≤ 0x7F := Nat.le_of_lt_succ hc
  simp only [String.utf8EncodeChar, if_pos hlow]
  rfl

/-- The other characters are written with bytes above 127, or with the byte of their own. -/
theorem basic_notMem_encodeChar (hc : c.toNat < 0x80) (h : d ≠ c) :
    UInt8.ofNat c.toNat ∉ String.utf8EncodeChar d := by
  have hcode : c.toNat ≠ d.val.toNat := fun hv => h (Char.toNat_inj.mp hv.symm)
  have hv : d.val.toNat < 0xD800 ∨ 0xDFFF < d.val.toNat ∧ d.val.toNat < 0x110000 := d.valid
  have other {k : Nat} (hk : k < 256) (hne : c.toNat ≠ k) :
      UInt8.ofNat c.toNat ≠ UInt8.ofNat k := ofNat_ne_ofNat (by omega) hk hne
  simp only [String.utf8EncodeChar]
  generalize d.val.toNat = v at hcode hv
  split_ifs with h1 h2 h3
  · simpa using other (by omega) hcode
  · simp only [List.mem_cons, List.not_mem_nil, or_false, not_or]
    exact ⟨other (by omega) (by omega), other (by omega) (by omega)⟩
  · simp only [List.mem_cons, List.not_mem_nil, or_false, not_or]
    exact ⟨other (by omega) (by omega), other (by omega) (by omega),
      other (by omega) (by omega)⟩
  · simp only [List.mem_cons, List.not_mem_nil, or_false, not_or]
    exact ⟨other (by omega) (by omega), other (by omega) (by omega),
      other (by omega) (by omega), other (by omega) (by omega)⟩

theorem count_encodeUtf8 (hc : c.toNat < 0x80) (cs : List Char) :
    (encodeUtf8 cs).count (UInt8.ofNat c.toNat) = cs.count c := by
  induction cs with
  | nil => rfl
  | cons d cs ih =>
    have hcons : encodeUtf8 (d :: cs) = String.utf8EncodeChar d ++ encodeUtf8 cs := rfl
    rw [hcons, List.count_append, ih]
    by_cases h : d = c
    · subst h
      simp [encodeChar_of_basic hc, Nat.add_comm]
    · rw [List.count_eq_zero_of_not_mem (basic_notMem_encodeChar hc h), List.count_cons_of_ne h,
        Nat.zero_add]

theorem mem_encodeUtf8_iff (hc : c.toNat < 0x80) {cs : List Char} :
    UInt8.ofNat c.toNat ∈ encodeUtf8 cs ↔ c ∈ cs := by
  rw [← List.count_pos_iff, ← List.count_pos_iff, count_encodeUtf8 hc]

end FtpControl.Text
