import FtpControl.Text.Blank
import FtpControl.Text.Digit
import FtpControl.Text.Upper
import Mathlib.Tactic

/-!
# Capitals

A text has at least as many capitals as characters. Blanks, digits and commas are their own
capitals.
-/

namespace FtpControl.Text

/-- A blank is its own capital. -/
theorem upperChar_of_isBlank {c : Char} (h : isBlank c = true) : upperChar c = [c] := by
  have hcodes : ∀ n ∈ [0x09, 0x0A, 0x0B, 0x0C, 0x0D, 0x1C, 0x1D, 0x1E, 0x1F, 0x20, 0x85, 0xA0,
      0x1680, 0x2000, 0x2001, 0x2002, 0x2003, 0x2004, 0x2005, 0x2006, 0x2007, 0x2008, 0x2009,
      0x200A, 0x2028, 0x2029, 0x202F, 0x205F, 0x3000],
      upperChar (Char.ofNat n) = [Char.ofNat n] := by decide +kernel
  -- The blanks are listed by code, so that the table of capitals is looked up for each of them.
  rw [← Char.ofNat_toNat c]
  apply hcodes
  simp only [isBlank, Bool.or_eq_true, Bool.and_eq_true, decide_eq_true_eq, beq_iff_eq] at h
  simp only [List.mem_cons, List.not_mem_nil, or_false]
  omega

theorem mem_upper_of_mem {c : Char} {cs : List Char} (h : upperChar c = [c]) (hc : c ∈ cs) :
    c ∈ upper cs := by
  rw [upper, List.mem_flatMap]
  exact ⟨c, hc, by simp [h]⟩

theorem mem_upper_of_isBlank {c : Char} {cs : List Char} (hblank : isBlank c = true)
    (hc : c ∈ cs) : c ∈ upper cs :=
  mem_upper_of_mem (upperChar_of_isBlank hblank) hc

theorem upper_of_forall {cs : List Char} (h : ∀ c ∈ cs, upperChar c = [c]) : upper cs = cs := by
  induction cs with
  | nil => rfl
  | cons c cs ih =>
    rw [upper_cons, h c List.mem_cons_self, ih fun d hd => h d (List.mem_cons_of_mem c hd)]
    rfl

theorem upperChar_of_isAsciiDigit {c : Char} (h : isAsciiDigit c = true) : upperChar c = [c] := by
  have hcodes : ∀ n ∈ [48, 49, 50, 51, 52, 53, 54, 55, 56, 57],
      upperChar (Char.ofNat n) = [Char.ofNat n] := by decide
  rw [isAsciiDigit_iff] at h
  rw [← Char.ofNat_toNat c]
  apply hcodes
  simp only [List.mem_cons, List.not_mem_nil, or_false]
  omega

/-- Only basic letters are made into basic capitals letter by letter. -/
theorem upperChar_of_toUpper {c : Char} (h : c.toUpper.toNat < 0x80) :
    upperChar c = [c.toUpper] := by
  have hbasic : c.toNat < 0x80 := by
    unfold Char.toUpper at h
    split_ifs at h with hletter
    · have hlast : c.toNat ≤ 122 := hletter.2
      omega
    · exact h
  exact if_pos hbasic

theorem upper_of_toUpper {cs : List Char} (h : ∀ c ∈ cs, c.toUpper.toNat < 0x80) :
    upper cs = cs.map Char.toUpper := by
  induction cs with
  | nil => rfl
  | cons c cs ih =>
    rw [List.forall_mem_cons] at h
    rw [upper_cons, upperChar_of_toUpper h.1, ih h.2, List.map_cons, List.singleton_append]

theorem longCapitals_ne_nil : ∀ e ∈ longCapitals, e.2 ≠ [] := by decide

theorem upperChar_ne_nil (c : Char) : upperChar c ≠ [] := by
  unfold upperChar
  split_ifs with hbasic
  · simp
  · split
    · next e he =>
      simpa using longCapitals_ne_nil e (List.mem_of_find?_eq_some he)
    · split
      · simp
      · simp

theorem length_le_upper (cs : List Char) : cs.length ≤ (upper cs).length := by
  induction cs with
  | nil => simp
  | cons c cs ih =>
    have hpos : 0 < (upperChar c).length := List.length_pos_iff.2 (upperChar_ne_nil c)
    rw [upper_cons, List.length_append, List.length_cons]
    omega

/-! ### Letters that are made into given capitals -/

section Preimages

variable {c x : Char} {rest : List Char}

theorem eq_toNat_of_ofNat_eq {n : Nat} (h : Char.ofNat n = c) (hc : c ≠ '\x00') : n = c.toNat := by
  by_cases hn : n.isValidChar
  · have hn : (Char.ofNat n).toNat = n := by
      rw [Char.ofNat, dif_pos hn]
      exact Char.toNat_val
    rw [← h, hn]
  · exact absurd (h.symm.trans (dif_neg hn)) hc

/-- Where a text in capitals goes on with a basic letter that no other letter is made into, and
with none of the long capitals, a letter of either case stands in the text. -/
theorem upperChar_of_prefix (hzero : x ≠ '\x00') (hx : x.toNat < 0x80)
    (hlong : ∀ e ∈ longCapitals, ¬ e.2.map Char.ofNat <+: x :: rest)
    (hruns : ∀ r ∈ caseRuns, r.contains (x.toNat - r.shift).toNat = false)
    (h : upperChar c <+: x :: rest) : c.toUpper = x ∧ upperChar c = [x] := by
  unfold upperChar at h ⊢
  split_ifs at h ⊢ with hbasic
  · obtain ⟨hc, -⟩ := List.cons_prefix_cons.mp h
    exact ⟨hc, by rw [hc]⟩
  · split at h
    · next e he => exact absurd h (hlong e (List.mem_of_find?_eq_some he))
    · split at h
      · next r hr =>
        obtain ⟨hc, -⟩ := List.cons_prefix_cons.mp h
        have hcode := eq_toNat_of_ofNat_eq hc hzero
        have hpos : 0 < x.toNat := Nat.pos_of_ne_zero fun h =>
          hzero (by rw [← Char.ofNat_toNat x, h])
        have hback : (x.toNat - r.shift).toNat = c.toNat := by omega
        have hfound : r.contains c.toNat = true := by simpa using List.find?_some hr
        have hnone := hruns r (List.mem_of_find?_eq_some hr)
        rw [hback, hfound] at hnone
        cases hnone
      · obtain ⟨rfl, -⟩ := List.cons_prefix_cons.mp h
        exact absurd hx hbasic

/-- A letter is its own basic capital, or the small letter to it. -/
theorem eq_or_eq_toLower_toUpper (c : Char) : c = c.toUpper ∨ c = c.toUpper.toLower := by
  have hcodes : ∀ n ∈ List.range 0x80, Char.ofNat n = (Char.ofNat n).toUpper ∨
      Char.ofNat n = (Char.ofNat n).toUpper.toLower := by decide +kernel
  by_cases hbasic : c.toNat < 0x80
  · rw [← Char.ofNat_toNat c]
    exact hcodes c.toNat (List.mem_range.mpr hbasic)
  · have hsame : c.toUpper = c := dif_neg fun hletter => hbasic (by
      have hlast : c.toNat ≤ 122 := hletter.2
      omega)
    exact .inl hsame.symm

/-- So a text whose capitals start with such a letter starts with it, in either case. -/
theorem exists_of_upper_eq_cons {cs : List Char} (hzero : x ≠ '\x00') (hx : x.toNat < 0x80)
    (hlong : ∀ e ∈ longCapitals, ¬ e.2.map Char.ofNat <+: x :: rest)
    (hruns : ∀ r ∈ caseRuns, r.contains (x.toNat - r.shift).toNat = false)
    (h : upper cs = x :: rest) :
    ∃ c more, cs = c :: more ∧ (c = x ∨ c = x.toLower) ∧ upper more = rest := by
  cases cs with
  | nil => simp at h
  | cons c more =>
    rw [upper_cons] at h
    obtain ⟨hc, hcapital⟩ := upperChar_of_prefix hzero hx hlong hruns ⟨_, h⟩
    rw [hcapital, List.singleton_append, List.cons_inj_right] at h
    exact ⟨c, more, rfl, hc ▸ eq_or_eq_toLower_toUpper c, h⟩

theorem eq_of_upperChar_eq_pair (h : upperChar c = ['S', 'S']) : c = 'ß' := by
  have hlong : ∀ e ∈ longCapitals, e.2.map Char.ofNat = ['S', 'S'] → e.1 = 0xDF := by decide
  unfold upperChar at h
  split_ifs at h with hbasic
  · simp at h
  · split at h
    · next e he =>
      have hcode := hlong e (List.mem_of_find?_eq_some he) h
      have hfound : e.1 = c.toNat := by simpa using List.find?_some he
      rw [← Char.ofNat_toNat c, ← hfound, hcode]
    · split at h <;> simp at h

end Preimages

end FtpControl.Text
