import Mathlib.Order.Bounds.Basic
import Mathlib.Order.MinMax
import FtpControl.Verb

/-!
# The distance of two words

The distance is the least number of single-character edits. A run of edits may touch one place
several times; what it amounts to is an alignment, which treats every character once, at no
higher cost. The least cost of an alignment obeys the recurrence that fills the table, and the
one row that is kept holds the least costs against all prefixes of the second word.

Alignments take words apart at the front and the table grows at the back, so the table is read
as one of the words reversed.
-/

namespace FtpControl.Verb

/-- One character is inserted, deleted or replaced, at any place. -/
inductive Edit : List Char → List Char → Prop
  | insert (front back : List Char) (b : Char) : Edit (front ++ back) (front ++ b :: back)
  | delete (front back : List Char) (a : Char) : Edit (front ++ a :: back) (front ++ back)
  | replace (front back : List Char) (a b : Char) :
      Edit (front ++ a :: back) (front ++ b :: back)

/-- The first word becomes the second by so many edits, one after another. -/
inductive Edits : Nat → List Char → List Char → Prop
  | done (a : List Char) : Edits 0 a a
  | step {n : Nat} {a b c : List Char} : Edit a b → Edits n b c → Edits (n + 1) a c

/-- The two words are gone through together, at the cost of one for every character that is
inserted, deleted or replaced by another. -/
inductive Aligned : Nat → List Char → List Char → Prop
  | nil : Aligned 0 [] []
  | insert {n : Nat} {p q : List Char} (b : Char) : Aligned n p q → Aligned (n + 1) p (b :: q)
  | delete {n : Nat} {p q : List Char} (a : Char) : Aligned n p q → Aligned (n + 1) (a :: p) q
  | pair {n : Nat} {p q : List Char} (a b : Char) :
      Aligned n p q → Aligned (n + if a = b then 0 else 1) (a :: p) (b :: q)

section Edits

variable {a b c : List Char} {n m : Nat}

theorem Edit.symm (h : Edit a b) : Edit b a := by
  cases h with
  | insert front back b => exact .delete front back b
  | delete front back a => exact .insert front back a
  | replace front back a b => exact .replace front back b a

theorem Edit.cons (x : Char) (h : Edit a b) : Edit (x :: a) (x :: b) := by
  cases h with
  | insert front back b => exact .insert (x :: front) back b
  | delete front back a => exact .delete (x :: front) back a
  | replace front back a b => exact .replace (x :: front) back a b

theorem Edit.reverse (h : Edit a b) : Edit a.reverse b.reverse := by
  cases h with
  | insert front back b => simpa using Edit.insert back.reverse front.reverse b
  | delete front back a => simpa using Edit.delete back.reverse front.reverse a
  | replace front back a b => simpa using Edit.replace back.reverse front.reverse a b

theorem Edits.trans (h : Edits n a b) (h' : Edits m b c) : Edits (n + m) a c := by
  induction h with
  | done a => simpa using h'
  | @step n a b d e _ ih =>
    have := Edits.step e (ih h')
    rwa [Nat.add_right_comm] at this

theorem Edits.symm (h : Edits n a b) : Edits n b a := by
  induction h with
  | done a => exact .done a
  | step e _ ih => exact ih.trans (.step e.symm (.done _))

theorem Edits.cons (x : Char) (h : Edits n a b) : Edits n (x :: a) (x :: b) := by
  induction h with
  | done a => exact .done (x :: a)
  | step e _ ih => exact .step (e.cons x) ih

theorem Edits.reverse (h : Edits n a b) : Edits n a.reverse b.reverse := by
  induction h with
  | done a => exact .done a.reverse
  | step e _ ih => exact .step e.reverse ih

theorem edits_reverse_iff : Edits n a.reverse b.reverse ↔ Edits n a b :=
  ⟨fun h => by simpa using h.reverse, Edits.reverse⟩

theorem edits_zero_iff : Edits 0 a b ↔ a = b := by
  constructor
  · intro h
    cases h
    rfl
  · rintro rfl
    exact .done a

end Edits

/-! ### Edits and alignments -/

section Alignments

variable {p q r : List Char} {n m : Nat}

theorem Aligned.edits (h : Aligned n p q) : Edits n p q := by
  induction h with
  | nil => exact .done []
  | @insert n p q b _ ih => exact ih.trans (.step (.insert [] q b) (.done _))
  | @delete n p q a _ ih => exact .step (.delete [] p a) ih
  | @pair n p q a b _ ih =>
    by_cases hab : a = b
    · subst hab
      simpa using ih.cons a
    · simpa [hab] using Edits.step (.replace [] p a b) (ih.cons b)

theorem Aligned.refl (p : List Char) : Aligned 0 p p := by
  induction p with
  | nil => exact .nil
  | cons a p ih => simpa using ih.pair a a

/-- What stays the same in front costs nothing. -/
theorem Aligned.append_left (front : List Char) (h : Aligned n p q) :
    Aligned n (front ++ p) (front ++ q) := by
  induction front with
  | nil => exact h
  | cons a front ih => simpa using ih.pair a a

theorem Edit.aligned (h : Edit p q) : ∃ k ≤ 1, Aligned k p q := by
  cases h with
  | insert front back b => exact ⟨1, le_rfl, ((Aligned.refl back).insert b).append_left front⟩
  | delete front back a => exact ⟨1, le_rfl, ((Aligned.refl back).delete a).append_left front⟩
  | replace front back a b =>
    refine ⟨0 + if a = b then 0 else 1, ?_, ((Aligned.refl back).pair a b).append_left front⟩
    split <;> omega

/-- What holds of an alignment once a character of the first word is done with, and is kept by
insertions, holds of every alignment of a word that starts with that character. -/
theorem Aligned.pass {b : Char} {P : Nat → List Char → Prop} (h : Aligned n (b :: q) r)
    (deleted : ∀ {m r}, Aligned m q r → P (m + 1) r)
    (paired : ∀ {m r} c, Aligned m q r → P (m + if b = c then 0 else 1) (c :: r))
    (inserted : ∀ {m r} c, P m r → P (m + 1) (c :: r)) : P n r := by
  generalize whole : b :: q = s at h
  induction h with
  | nil => simp at whole
  | insert c _ ih => exact inserted c (ih whole)
  | delete a h _ =>
    obtain ⟨rfl, rfl⟩ := List.cons.inj whole
    exact deleted h
  | pair a c h _ =>
    obtain ⟨rfl, rfl⟩ := List.cons.inj whole
    exact paired c h

/-- Two alignments one after the other make one that costs no more. -/
theorem Aligned.trans (h : Aligned n p q) (h' : Aligned m q r) :
    ∃ k ≤ n + m, Aligned k p r := by
  induction h generalizing m r with
  | nil => exact ⟨m, by omega, h'⟩
  | @delete n p q a _ ih =>
    obtain ⟨k, hk, aligned⟩ := ih h'
    exact ⟨k + 1, by omega, aligned.delete a⟩
  | @insert n p q b _ ih =>
    refine h'.pass (P := fun m r => ∃ k ≤ n + 1 + m, Aligned k p r) (fun h' => ?_)
      (fun c h' => ?_) (fun c further => ?_)
    · obtain ⟨k, hk, aligned⟩ := ih h'
      exact ⟨k, by omega, aligned⟩
    · obtain ⟨k, hk, aligned⟩ := ih h'
      exact ⟨k + 1, by omega, aligned.insert c⟩
    · obtain ⟨k, hk, aligned⟩ := further
      exact ⟨k + 1, by omega, aligned.insert c⟩
  | @pair n p q a b _ ih =>
    refine h'.pass (P := fun m r => ∃ k ≤ (n + if a = b then 0 else 1) + m, Aligned k (a :: p) r)
      (fun h' => ?_) (fun c h' => ?_) (fun c further => ?_)
    · obtain ⟨k, hk, aligned⟩ := ih h'
      exact ⟨k + 1, by omega, aligned.delete a⟩
    · obtain ⟨k, hk, aligned⟩ := ih h'
      have direct : (if a = c then 0 else 1) ≤
          (if a = b then 0 else 1) + if b = c then 0 else 1 := by grind
      exact ⟨k + if a = c then 0 else 1, by omega, aligned.pair a c⟩
    · obtain ⟨k, hk, aligned⟩ := further
      exact ⟨k + 1, by omega, aligned.insert c⟩

theorem Edits.aligned (h : Edits n p q) : ∃ k ≤ n, Aligned k p q := by
  induction h with
  | done a => exact ⟨0, le_rfl, .refl a⟩
  | step e _ ih =>
    obtain ⟨k, hk, first⟩ := e.aligned
    obtain ⟨l, hl, rest⟩ := ih
    obtain ⟨t, ht, aligned⟩ := first.trans rest
    exact ⟨t, by omega, aligned⟩

end Alignments

/-! ### The table -/

section Table

variable {p q : List Char} {n : Nat}

/-- The cost of the cheapest alignments. -/
def Least (n : Nat) (p q : List Char) : Prop := IsLeast {k | Aligned k p q} n

theorem least_nil_nil : Least 0 [] [] := ⟨.nil, fun _ _ => Nat.zero_le _⟩

theorem Least.insert (h : Least n [] q) (b : Char) : Least (n + 1) [] (b :: q) := by
  refine ⟨h.1.insert b, fun k aligned => ?_⟩
  cases aligned with
  | insert _ aligned => exact Nat.succ_le_succ (h.2 aligned)

theorem Least.delete (h : Least n p []) (a : Char) : Least (n + 1) (a :: p) [] := by
  refine ⟨h.1.delete a, fun k aligned => ?_⟩
  cases aligned with
  | delete _ aligned => exact Nat.succ_le_succ (h.2 aligned)

/-- The cheapest alignment of two words ends in one of three ways. -/
theorem Least.cons {above left corner : Nat} {a b : Char} (ha : Least above p (b :: q))
    (hl : Least left (a :: p) q) (hc : Least corner p q) :
    Least (min (min (above + 1) (left + 1)) (corner + if a = b then 0 else 1))
      (a :: p) (b :: q) := by
  constructor
  · have deleted : Aligned (above + 1) (a :: p) (b :: q) := ha.1.delete a
    have inserted : Aligned (left + 1) (a :: p) (b :: q) := hl.1.insert b
    have paired := hc.1.pair a b
    exact min_rec' (fun k => Aligned k (a :: p) (b :: q))
      (min_rec' (fun k => Aligned k (a :: p) (b :: q)) deleted inserted) paired
  · intro k aligned
    cases aligned with
    | delete _ aligned => have := ha.2 aligned; omega
    | insert _ aligned => have := hl.2 aligned; omega
    | pair _ _ aligned => have := hc.2 aligned; omega

/-- A row of the table, from the prefix `q` of the second word on, with the rest of that word.
Both prefixes are kept back to front. -/
inductive Row (p : List Char) : (q rest : List Char) → List Nat → Prop
  | last {n : Nat} {q : List Char} : Least n p q → Row p q [] [n]
  | cons {n : Nat} {b : Char} {q rest : List Char} {row : List Nat} :
      Least n p q → Row p (b :: q) rest row → Row p q (b :: rest) (n :: row)

theorem row_start (h : Least n [] q) (rest : List Char) :
    Row [] q rest (List.range' n (rest.length + 1)) := by
  induction rest generalizing n q with
  | nil => exact .last h
  | cons b rest ih => exact .cons h (ih (h.insert b))

theorem row_fill {a : Char} {left corner : Nat} {rest : List Char} {above : List Nat}
    (h : Row p q rest (corner :: above)) (hl : Least left (a :: p) q) :
    Row (a :: p) q rest (left :: fillRow a left corner (rest.zip above)) := by
  induction rest generalizing q left corner above with
  | nil => simpa [fillRow] using Row.last hl
  | cons b rest ih =>
    cases h with
    | cons hc h =>
      cases h with
      | last ha => simpa [fillRow] using Row.cons hl (.last (.cons ha hl hc))
      | cons ha h =>
        have row := ih (.cons ha h) (.cons ha hl hc)
        simpa [fillRow] using Row.cons hl row

theorem row_next {a : Char} {b : List Char} {row : List Nat} (h : Row p [] b row) :
    Row (a :: p) [] b (nextRow b row a) := by
  cases h with
  | last h => exact .last (h.delete a)
  | cons h rest => exact row_fill (.cons h rest) (h.delete a)

theorem row_foldl (a : List Char) {b : List Char} {row : List Nat} (h : Row p [] b row) :
    Row (a.reverse ++ p) [] b (a.foldl (nextRow b) row) := by
  induction a generalizing p row with
  | nil => exact h
  | cons x a ih => simpa using ih (row_next (a := x) h)

/-- The last entry belongs to the whole word. -/
theorem Row.getLast? {rest : List Char} {row : List Nat} (h : Row p q rest row) :
    ∃ n, row.getLast? = some n ∧ Least n p (rest.reverse ++ q) := by
  induction h with
  | @last n q h => exact ⟨n, rfl, h⟩
  | @cons n b q rest row _ further ih =>
    obtain ⟨n, hn, least⟩ := ih
    refine ⟨n, ?_, by simpa using least⟩
    cases further <;> simpa using hn

end Table

theorem least_distance (a b : List Char) : Least (distance a b) a.reverse b.reverse := by
  have start := row_start least_nil_nil b
  rw [← List.range_eq_range'] at start
  obtain ⟨n, hn, least⟩ := (row_foldl a start).getLast?
  simpa [distance, hn] using least

theorem edits_distance (a b : List Char) : Edits (distance a b) a b :=
  edits_reverse_iff.mp (least_distance a b).1.edits

theorem distance_le_of_edits {a b : List Char} {n : Nat} (h : Edits n a b) :
    distance a b ≤ n := by
  obtain ⟨k, hk, aligned⟩ := h.reverse.aligned
  exact ((least_distance a b).2 aligned).trans hk

/-- The distance is the least number of edits that turn the one word into the other, and with
that a metric on words. -/
theorem distance_isLeast_edits (a b : List Char) :
    IsLeast {n | Edits n a b} (distance a b) ∧
      distance a b = distance b a ∧
      (distance a b = 0 ↔ a = b) ∧
      ∀ c, distance a c ≤ distance a b + distance b c := by
  have symmetric (a b : List Char) : distance b a ≤ distance a b :=
    distance_le_of_edits (edits_distance a b).symm
  refine ⟨⟨edits_distance a b, fun n => distance_le_of_edits⟩,
    (symmetric b a).antisymm (symmetric a b), ⟨fun h => ?_, fun h => ?_⟩, fun c => ?_⟩
  · exact edits_zero_iff.mp (h ▸ edits_distance a b)
  · exact Nat.le_zero.mp (distance_le_of_edits (edits_zero_iff.mpr h))
  · exact distance_le_of_edits ((edits_distance a b).trans (edits_distance b c))

example : distance "KITTEN".toList "SITTING".toList = 3 := by decide

end FtpControl.Verb
