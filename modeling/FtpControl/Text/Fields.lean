/-!
# Separated fields

A text cut at every occurrence of a separator, and the reverse. Cutting never loses or adds
a character: joining the fields with the separator gives the text back.
-/

namespace FtpControl.Text

variable {α : Type}

/-- The pieces between the separators; `n` separators make `n + 1` pieces. -/
def fields [DecidableEq α] (sep : α) : List α → List (List α)
  | [] => [[]]
  | a :: as =>
    if a = sep then [] :: fields sep as
    else match fields sep as with
      | [] => [[a]]
      | f :: fs => (a :: f) :: fs

/-- The pieces with a glue between each two. -/
def join (glue : List α) : List (List α) → List α
  | [] => []
  | [f] => f
  | f :: g :: fs => f ++ glue ++ join glue (g :: fs)

theorem fields_ne_nil [DecidableEq α] (sep : α) (as : List α) : fields sep as ≠ [] := by
  cases as with
  | nil => simp [fields]
  | cons a as =>
    unfold fields
    split
    · simp
    · split <;> simp

theorem join_cons (glue f : List α) {fs : List (List α)} (h : fs ≠ []) :
    join glue (f :: fs) = f ++ glue ++ join glue fs := by
  cases fs with
  | nil => exact absurd rfl h
  | cons g fs => rfl

theorem join_fields [DecidableEq α] (sep : α) (as : List α) : join [sep] (fields sep as) = as := by
  induction as with
  | nil => rfl
  | cons a as ih =>
    unfold fields
    split
    · next h => simp [join_cons _ _ (fields_ne_nil sep as), ih, h]
    · split
      · next h => exact absurd h (fields_ne_nil sep as)
      · next f fs h =>
        rw [h] at ih
        cases fs with
        | nil => simpa [join] using ih
        | cons g fs => simpa [join] using ih

theorem fields_of_not_mem [DecidableEq α] {sep : α} {as : List α} (h : sep ∉ as) :
    fields sep as = [as] := by
  induction as with
  | nil => rfl
  | cons a as ih =>
    simp only [List.mem_cons, not_or] at h
    rw [fields, if_neg (Ne.symm h.1), ih h.2]

/-- A piece without a separator is cut off as it is. -/
theorem fields_append [DecidableEq α] {sep : α} {f : List α} (h : sep ∉ f) (rest : List α) :
    fields sep (f ++ sep :: rest) = f :: fields sep rest := by
  induction f with
  | nil => simp [fields]
  | cons a f ih =>
    simp only [List.mem_cons, not_or] at h
    rw [List.cons_append, fields, if_neg (Ne.symm h.1), ih h.2]

theorem join_eq_intercalate (glue : List α) (fs : List (List α)) :
    join glue fs = glue.intercalate fs := by
  induction fs with
  | nil => rfl
  | cons f fs ih =>
    cases fs with
    | nil => simp [join, List.intercalate]
    | cons g fs => simp [join, ih, List.intercalate]

/-- Pieces without a separator are found again in what they were joined to. -/
theorem fields_join [DecidableEq α] {sep : α} {fs : List (List α)} (hne : fs ≠ [])
    (h : ∀ f ∈ fs, sep ∉ f) : fields sep (join [sep] fs) = fs := by
  induction fs with
  | nil => exact absurd rfl hne
  | cons f fs ih =>
    have hf : sep ∉ f := h f List.mem_cons_self
    cases fs with
    | nil => exact fields_of_not_mem hf
    | cons g fs =>
      have hrest := ih (by simp) fun x hx => h x (List.mem_cons_of_mem f hx)
      rw [join, List.append_assoc, List.singleton_append, fields_append hf, hrest]

theorem not_mem_join {a sep : α} {fs : List (List α)} (hsep : a ≠ sep) (h : ∀ f ∈ fs, a ∉ f) :
    a ∉ join [sep] fs := by
  induction fs with
  | nil => simp [join]
  | cons f fs ih =>
    have hf : a ∉ f := h f List.mem_cons_self
    cases fs with
    | nil => exact hf
    | cons g fs =>
      have hrest := ih fun x hx => h x (List.mem_cons_of_mem f hx)
      simp [join, hf, hsep, hrest]

/-- The text before the first separator. -/
def firstField [DecidableEq α] (sep : α) (as : List α) : List α :=
  as.takeWhile (· ≠ sep)

/-- Where the pattern last occurs. -/
def lastIndexOf? [DecidableEq α] (pattern : List α) : List α → Option Nat
  | [] => if pattern.isEmpty then some 0 else none
  | a :: as =>
    match lastIndexOf? pattern as with
    | some i => some (i + 1)
    | none => if pattern.isPrefixOf (a :: as) then some 0 else none

theorem lastIndexOf?_of_not_mem [DecidableEq α] {a : α} {as : List α} (h : a ∉ as)
    (pattern : List α) : lastIndexOf? (a :: pattern) as = none := by
  induction as with
  | nil => rfl
  | cons b as ih =>
    simp only [List.mem_cons, not_or] at h
    rw [lastIndexOf?, ih h.2]
    simp [List.isPrefixOf, h.1]

theorem lastIndexOf?_append [DecidableEq α] {pattern bs : List α} {i : Nat}
    (h : lastIndexOf? pattern bs = some i) (as : List α) :
    lastIndexOf? pattern (as ++ bs) = some (as.length + i) := by
  induction as with
  | nil => simpa using h
  | cons a as ih =>
    rw [List.cons_append, lastIndexOf?, ih, List.length_cons]
    simp only [Option.some.injEq]
    omega

/-- A pattern is found where its first letter last occurs. -/
theorem lastIndexOf?_of_last [DecidableEq α] {a : α} {pattern as : List α} (hpattern : a ∉ pattern)
    (h : a ∉ as) : lastIndexOf? (a :: pattern) (a :: (pattern ++ as)) = some 0 := by
  have hlater : lastIndexOf? (a :: pattern) (pattern ++ as) = none := by
    apply lastIndexOf?_of_not_mem
    simp [hpattern, h]
  rw [lastIndexOf?, hlater]
  simp [List.isPrefixOf]

/-- What stands between the first `left` and the first `right`, when both occur in that order. -/
def between? [DecidableEq α] (left right : α) (as : List α) : Option (List α) :=
  let before := as.takeWhile (· ≠ left)
  if right ∈ before ∨ left ∉ as ∨ right ∉ as then none
  else some ((as.drop (before.length + 1)).takeWhile (· ≠ right))

theorem takeWhile_append_of_not_mem [DecidableEq α] {a : α} {front : List α} (h : a ∉ front)
    (rest : List α) : (front ++ a :: rest).takeWhile (· ≠ a) = front := by
  induction front with
  | nil => simp
  | cons b front ih =>
    simp only [List.mem_cons, not_or] at h
    rw [List.cons_append, List.takeWhile_cons, if_pos (by simpa using Ne.symm h.1), ih h.2]

/-- The first `left` and the first `right` behind it are found, whatever comes after them. -/
theorem between?_append [DecidableEq α] {left right : α} {before inside : List α}
    (hleft : left ∉ before) (hright : right ∉ before) (hinside : right ∉ inside)
    (after : List α) :
    between? left right (before ++ left :: (inside ++ right :: after)) = some inside := by
  have hdrop : (before ++ left :: (inside ++ right :: after)).drop (before.length + 1) =
      inside ++ right :: after := by
    simp
  unfold between?
  rw [takeWhile_append_of_not_mem hleft]
  dsimp only
  rw [hdrop, takeWhile_append_of_not_mem hinside]
  simp [hright]

end FtpControl.Text
