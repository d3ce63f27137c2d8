import Mathlib.Order.Lattice.Nat
import FtpControl.Proofs.Verb.Distance

/-!
# The suggested verb

A scan of the known verbs keeps one bound, which starts one above the reach and falls to the
distance of every verb taken. It is the threshold as long as no verb has been taken, and the
least distance met so far from then on. So the first of the nearest verbs is suggested, if it
is within reach. No other verb is at distance zero from a known one, which is then suggested
itself.
-/

namespace FtpControl.Verb

theorem distance_eq_zero_iff {a b : List Char} : distance a b = 0 ↔ a = b := by
  constructor
  · intro h
    exact edits_zero_iff.mp (h ▸ edits_distance a b)
  · intro h
    exact Nat.le_zero.mp (distance_le_of_edits (edits_zero_iff.mpr h))

/-- How far the candidates are from a word. -/
def distances (word : List Char) (candidates : List String) : Set Nat :=
  {n | ∃ k ∈ candidates, distance word k.toList = n}

section Scan

variable {word : List Char} {m : Nat} {k : String} {rest candidates : List String}

theorem exists_isLeast_distances (word : List Char) (h : candidates ≠ []) :
    ∃ m, IsLeast (distances word candidates) m := by
  obtain ⟨k, hk⟩ := List.exists_mem_of_ne_nil candidates h
  have hne : (distances word candidates).Nonempty := ⟨_, k, hk, rfl⟩
  exact ⟨_, Nat.sInf_mem hne, fun n hn => Nat.sInf_le hn⟩

theorem exists_find?_of_isLeast (h : IsLeast (distances word candidates) m) :
    ∃ k, (candidates.find? fun k => distance word k.toList = m) = some k ∧
      distance word k.toList = m := by
  obtain ⟨j, hj, hm⟩ := h.1
  have hfound : (candidates.find? fun k => distance word k.toList = m).isSome := by
    rw [List.find?_isSome]
    exact ⟨j, hj, by simpa using hm⟩
  obtain ⟨k, hk⟩ := Option.isSome_iff_exists.mp hfound
  exact ⟨k, hk, by simpa using List.find?_some hk⟩

/-- A candidate that is not among the nearest may be left out. -/
theorem isLeast_distances_tail (h : IsLeast (distances word (k :: rest)) m)
    (hk : distance word k.toList ≠ m) : IsLeast (distances word rest) m := by
  obtain ⟨⟨j, hj, hm⟩, hleast⟩ := h
  constructor
  · rcases List.mem_cons.mp hj with rfl | hj
    · exact absurd hm hk
    · exact ⟨j, hj, hm⟩
  · intro n hn
    obtain ⟨i, hi, rfl⟩ := hn
    exact hleast ⟨i, List.mem_cons_of_mem k hi, rfl⟩

theorem nearest_of_le {best : Option String} {bound : Int}
    (h : ∀ k ∈ candidates, bound ≤ distance word k.toList) :
    nearest word best bound candidates = best := by
  induction candidates with
  | nil => rfl
  | cons k rest ih =>
    have hk : ¬ (distance word k.toList : Int) < bound := not_lt.mpr (h k List.mem_cons_self)
    simp only [nearest, if_neg hk]
    exact ih fun j hj => h j (List.mem_cons_of_mem k hj)

/-- As long as the bound is above the least distance, the first of the nearest candidates is
still to come. -/
theorem nearest_of_lt {best : Option String} {bound : Int}
    (h : IsLeast (distances word candidates) m) (hm : m < bound) :
    nearest word best bound candidates =
      candidates.find? fun k => distance word k.toList = m := by
  induction candidates generalizing best bound with
  | nil =>
    obtain ⟨k, hk, -⟩ := h.1
    simp at hk
  | cons k rest ih =>
    have hleast : ∀ j ∈ k :: rest, m ≤ distance word j.toList := fun j hj => h.2 ⟨j, hj, rfl⟩
    by_cases hk : distance word k.toList = m
    · have hlater : ∀ j ∈ rest, (m : Int) ≤ distance word j.toList := fun j hj =>
        Int.ofNat_le.mpr (hleast j (List.mem_cons_of_mem k hj))
      simp only [nearest, hk, if_pos hm]
      rw [nearest_of_le hlater, List.find?_cons_of_pos (by simpa using hk)]
    · have hfar : m < distance word k.toList :=
        lt_of_le_of_ne (hleast k List.mem_cons_self) (Ne.symm hk)
      have hrest := isLeast_distances_tail h hk
      rw [List.find?_cons_of_neg (by simpa using hk)]
      simp only [nearest]
      split
      · exact ih hrest (Int.ofNat_lt.mpr hfar)
      · exact ih hrest hm

end Scan

section Suggestion

variable {verb : String} {reach : Int} {m : Nat}

theorem suggestion?_of_le (h : IsLeast (distances (Text.upper verb.toList) known) m)
    (hm : m ≤ reach) :
    suggestion? verb reach =
      known.find? fun k => distance (Text.upper verb.toList) k.toList = m := by
  unfold suggestion?
  exact nearest_of_lt h (Int.lt_add_one_of_le hm)

theorem suggestion?_of_lt (h : IsLeast (distances (Text.upper verb.toList) known) m)
    (hm : reach < m) : suggestion? verb reach = none := by
  unfold suggestion?
  apply nearest_of_le
  intro k hk
  have hleast : m ≤ distance (Text.upper verb.toList) k.toList := h.2 ⟨k, hk, rfl⟩
  omega

/-- The engine's own verbs stand first. -/
theorem mem_engine_of_find?_known {p : String → Bool} {k : String} (h : known.find? p = some k) :
    k ∈ engine ∨ ∀ j ∈ engine, p j = false := by
  rw [known, List.find?_append] at h
  cases hengine : engine.find? p with
  | none =>
    right
    simpa using List.find?_eq_none.mp hengine
  | some j =>
    left
    rw [hengine, Option.some_or, Option.some.injEq] at h
    exact h ▸ List.mem_of_find?_eq_some hengine

/-- A known verb is at distance zero from itself, and nothing else is. -/
theorem suggestion?_eq_upper_iff (hreach : 0 ≤ reach) :
    suggestion? verb reach = some (String.ofList (Text.upper verb.toList)) ↔
      isKnown verb = true := by
  obtain ⟨m, hm⟩ := exists_isLeast_distances (Text.upper verb.toList) (by decide : known ≠ [])
  rw [isKnown_iff]
  constructor
  · intro h
    by_cases hle : (m : Int) ≤ reach
    · rw [suggestion?_of_le hm hle] at h
      exact ⟨_, List.mem_of_find?_eq_some h, by simp⟩
    · rw [suggestion?_of_lt hm (not_le.mp hle)] at h
      cases h
  · rintro ⟨k, hk, hupper⟩
    have hzero : m = 0 := Nat.le_zero.mp (hm.2 ⟨k, hk, distance_eq_zero_iff.mpr hupper⟩)
    subst hzero
    obtain ⟨j, hj, hsame⟩ := exists_find?_of_isLeast hm
    rw [suggestion?_of_le hm hreach, hj, distance_eq_zero_iff.mp hsame, String.ofList_toList]

/-- The suggestion is the first of the known verbs at the least distance, if this distance is
within reach, and there is none otherwise. In particular it is the word itself exactly if that
is a known verb. -/
theorem suggestion?_first_nearest (verb : String) (reach : Int) :
    ∃ m, IsLeast (distances (Text.upper verb.toList) known) m ∧
      (m ≤ reach → ∃ k, suggestion? verb reach = some k ∧
        (known.find? fun j => distance (Text.upper verb.toList) j.toList = m) = some k ∧
        (k ∈ engine ∨ ∀ j ∈ engine, m < distance (Text.upper verb.toList) j.toList)) ∧
      (reach < m → suggestion? verb reach = none) ∧
      (0 ≤ reach → (suggestion? verb reach = some (String.ofList (Text.upper verb.toList)) ↔
        isKnown verb = true)) := by
  obtain ⟨m, hm⟩ := exists_isLeast_distances (Text.upper verb.toList) (by decide : known ≠ [])
  refine ⟨m, hm, fun hle => ?_, suggestion?_of_lt hm, suggestion?_eq_upper_iff⟩
  obtain ⟨k, hk, -⟩ := exists_find?_of_isLeast hm
  refine ⟨k, (suggestion?_of_le hm hle).trans hk, hk, ?_⟩
  rcases mem_engine_of_find?_known hk with hengine | hnone
  · exact .inl hengine
  · right
    intro j hj
    have hne : distance (Text.upper verb.toList) j.toList ≠ m := by simpa using hnone j hj
    have hmem : j ∈ known := List.mem_append_left _ hj
    exact lt_of_le_of_ne (hm.2 ⟨j, hmem, rfl⟩) (Ne.symm hne)

/-- `PASS` and `PASV` are equally near. -/
example : suggestion? "pas" 1 = some "PASS" ∧ suggestion? "pas" 0 = none := by decide +kernel

end Suggestion

end FtpControl.Verb
