import Mathlib.Data.List.Infix
import Mathlib.Tactic.IntervalCases
import FtpControl.Text.Quoted

/-!
# Words in quoted text

Quoting leaves a word of capitals and underscores as it is, and makes no such word out of
anything else: an escape starts with a backslash and goes on in small letters and digits,
except for the `U` that announces eight of them.
-/

namespace FtpControl.Text

variable {q c x : Char} {w cs front back : List Char}

def IsQuote (q : Char) : Prop := q = apostrophe ∨ q = doubleQuote

/-- The character stands for itself between quotes of either kind. -/
def isPlain (c : Char) : Bool :=
  escape apostrophe c == [c] && escape doubleQuote c == [c]

/-- A letter that no escape contains. -/
def isInitial (x : Char) : Bool := x.isUpper && x != 'U'

@[simp]
theorem toList_quoted (s : String) : (quoted s).toList = quote s.toList := String.toList_ofList

theorem isQuote_delimiter (cs : List Char) : IsQuote (delimiter cs) := by
  unfold delimiter
  split
  · exact .inr rfl
  · exact .inl rfl

theorem escape_of_isPlain (hq : IsQuote q) (h : isPlain c = true) : escape q c = [c] := by
  simp only [isPlain, Bool.and_eq_true, beq_iff_eq] at h
  rcases hq with rfl | rfl
  · exact h.1
  · exact h.2

theorem flatMap_escape_of_isPlain (hq : IsQuote q) (hw : w.all isPlain = true) :
    w.flatMap (escape q) = w := by
  induction w with
  | nil => rfl
  | cons c w ih =>
    simp only [List.all_cons, Bool.and_eq_true] at hw
    simp [escape_of_isPlain hq hw.1, ih hw.2]

theorem ne_of_isInitial (hx : isInitial x = true) (hc : isInitial c = false) : x ≠ c := by
  rintro rfl
  simp [hx] at hc

theorem not_isInitial_of_isQuote (hq : IsQuote q) : isInitial q = false := by
  rcases hq with rfl | rfl <;> decide

theorem not_mem_hexDigits (hx : isInitial x = true) (width n : Nat) : x ∉ hexDigits width n := by
  induction width generalizing n with
  | zero => simp [hexDigits]
  | succ width ih =>
    have small : n % 16 < 16 := Nat.mod_lt n (by decide)
    have digit : isInitial (Nat.digitChar (n % 16)) = false := by
      interval_cases n % 16 <;> decide
    simp [hexDigits, ih, ne_of_isInitial hx digit]

theorem not_mem_code (hc : isInitial c = false) (width n : Nat) (x : Char)
    (hx : isInitial x = true) : x ∉ c :: hexDigits width n := by
  simp [ne_of_isInitial hx hc, not_mem_hexDigits hx]

/-- A character is kept, or a backslash stands in its place with no initial behind it. -/
theorem escape_cases (hq : IsQuote q) (c : Char) :
    escape q c = [c] ∨
      ∃ code, escape q c = '\\' :: code ∧ ∀ x, isInitial x = true → x ∉ code := by
  unfold escape
  split_ifs
  · exact .inr ⟨_, rfl, not_mem_code (by decide) 0 0⟩
  · exact .inr ⟨_, rfl, not_mem_code (not_isInitial_of_isQuote hq) 0 0⟩
  · exact .inr ⟨_, rfl, not_mem_code (by decide) 0 0⟩
  · exact .inr ⟨_, rfl, not_mem_code (by decide) 0 0⟩
  · exact .inr ⟨_, rfl, not_mem_code (by decide) 0 0⟩
  · exact .inl rfl
  · exact .inr ⟨_, rfl, not_mem_code (by decide) 2 c.toNat⟩
  · exact .inr ⟨_, rfl, not_mem_code (by decide) 4 c.toNat⟩
  · exact .inr ⟨_, rfl, not_mem_code (by decide) 8 c.toNat⟩

/-- A word does not reach into a part in which its first character is missing. -/
theorem infix_of_infix_append (h : x ∉ front) (found : x :: w <:+: front ++ back) :
    x :: w <:+: back := by
  induction front with
  | nil => exact found
  | cons c front ih =>
    rw [List.mem_cons, not_or] at h
    rcases List.infix_cons_iff.mp found with starts | found
    · exact absurd (List.cons_prefix_cons.mp starts).1 h.1
    · exact ih h.2 found

theorem prefix_of_prefix_escaped (hq : IsQuote q) (hw : w.all isPlain = true)
    (h : w <+: cs.flatMap (escape q) ++ q :: back) : w <+: cs := by
  induction cs generalizing w with
  | nil =>
    cases w with
    | nil => exact List.nil_prefix
    | cons x w =>
      obtain ⟨rfl, -⟩ := List.cons_prefix_cons.mp h
      rcases hq with rfl | rfl <;> simp [isPlain, escape, apostrophe, doubleQuote] at hw
  | cons c cs ih =>
    cases w with
    | nil => exact List.nil_prefix
    | cons x w =>
      simp only [List.all_cons, Bool.and_eq_true] at hw
      rcases escape_cases hq c with kept | ⟨code, escaped, -⟩
      · simp only [List.flatMap_cons, kept, List.cons_append, List.nil_append] at h
        obtain ⟨rfl, rest⟩ := List.cons_prefix_cons.mp h
        exact List.cons_prefix_cons.mpr ⟨rfl, ih hw.2 rest⟩
      · simp only [List.flatMap_cons, escaped, List.cons_append] at h
        obtain ⟨rfl, -⟩ := List.cons_prefix_cons.mp h
        exact absurd hw.1 (by decide)

theorem infix_of_infix_escaped (hq : IsQuote q) (hx : isInitial x = true)
    (hw : (x :: w).all isPlain = true) (hback : x ∉ back)
    (h : x :: w <:+: cs.flatMap (escape q) ++ q :: back) : x :: w <:+: cs := by
  induction cs with
  | nil =>
    refine absurd (h.subset List.mem_cons_self) ?_
    simp [hback, ne_of_isInitial hx (not_isInitial_of_isQuote hq)]
  | cons c cs ih =>
    have longer : cs <:+: c :: cs := (List.suffix_cons c cs).isInfix
    rcases escape_cases hq c with kept | ⟨code, escaped, hcode⟩
    · have split : (c :: cs).flatMap (escape q) ++ q :: back =
          c :: (cs.flatMap (escape q) ++ q :: back) := by simp [kept]
      rcases List.infix_cons_iff.mp (split ▸ h) with starts | found
      · exact (prefix_of_prefix_escaped hq hw (split ▸ starts)).isInfix
      · exact (ih found).trans longer
    · rw [List.flatMap_cons, escaped, List.append_assoc] at h
      have hcode : x ∉ '\\' :: code := by
        simp [hcode x hx, ne_of_isInitial hx (show isInitial '\\' = false by decide)]
      exact (ih (infix_of_infix_append hcode h)).trans longer

/-- A plain word stands in a message around a quoted text just when it stands in the text. -/
theorem infix_quote_iff (hx : isInitial x = true) (hw : (x :: w).all isPlain = true)
    (hfront : x ∉ front) (hback : x ∉ back) (cs : List Char) :
    x :: w <:+: front ++ quote cs ++ back ↔ x :: w <:+: cs := by
  have hq := isQuote_delimiter cs
  constructor
  · intro h
    have opening : x ∉ front ++ [delimiter cs] := by
      simp [hfront, ne_of_isInitial hx (not_isInitial_of_isQuote hq)]
    refine infix_of_infix_escaped hq hx hw hback (infix_of_infix_append opening ?_)
    simpa [quote] using h
  · intro h
    have escaped : x :: w <:+: cs.flatMap (escape (delimiter cs)) := by
      obtain ⟨before, behind, rfl⟩ := h
      rw [List.flatMap_append, List.flatMap_append, flatMap_escape_of_isPlain hq hw]
      exact List.infix_append _ _ _
    refine escaped.trans ⟨front ++ [delimiter cs], delimiter cs :: back, ?_⟩
    simp [quote]

end FtpControl.Text
