import FtpControl.Endpoint.Passive
import Mathlib.Tactic

/-!
# Refused tuples

A passive reply announces no endpoint for one of two reasons: the shape of its tuple, or a
component among six that is too large for an octet. Either way the server is at fault.
-/

namespace FtpControl

variable {α : Type}

namespace Endpoint

/-- A tuple of six components, not all of which are octets. -/
def Oversized (text : String) : Prop :=
  ∃ components ∈ (tupleRegion? text.toList).bind (scan []),
    components.length = 6 ∧ ∃ value ∈ components, 255 < value

instance (text : String) : Decidable (Oversized text) :=
  inferInstanceAs (Decidable (∃ components ∈ (tupleRegion? text.toList).bind (scan []), _))

theorem component?_nonneg {digits : List Char} {value : Int}
    (h : component? digits = some value) : 0 ≤ value := by
  unfold component? at h
  split_ifs at h
  cases h
  exact Int.natCast_nonneg _

theorem scan_nonneg {digits cs : List Char} {components : List Int}
    (h : scan digits cs = some components) : ∀ value ∈ components, 0 ≤ value := by
  -- The digits under way change along the text, so they are generalized too.
  induction cs generalizing digits components with
  | nil =>
    unfold scan at h
    split_ifs at h
    · cases h
      simp
    · obtain ⟨value, hvalue, hlast⟩ := Option.bind_eq_some_iff.1 h
      cases hlast
      simpa using component?_nonneg hvalue
  | cons c cs ih =>
    unfold scan at h
    split_ifs at h
    · exact ih h
    · obtain ⟨value, hvalue, h⟩ := Option.bind_eq_some_iff.1 h
      obtain ⟨rest, hrest, hall⟩ := Option.bind_eq_some_iff.1 h
      cases hall
      intro v hv
      obtain rfl | hv := List.mem_cons.1 hv
      · exact component?_nonneg hvalue
      · exact ih hrest v hv

/-- A result if all of these components are octets, and otherwise the fault that names one of
them that is too large. -/
def Judged (components : List Int) (r : Except Fault α) : Prop :=
  ((∀ value ∈ components, value ≤ 255) ∧ ∃ a, r = .ok a) ∨
    ∃ value ∈ components, 255 < value ∧ r = .error (.componentOutOfRange value)

theorem judged_ok (a : α) : Judged [] (.ok a) :=
  .inl ⟨by simp, a, rfl⟩

/-- One more component is read first. -/
theorem judged_octet {value : Int} {components : List Int} {f : Octet → Except Fault α}
    (hvalue : 0 ≤ value) (hrest : ∀ o, Judged components (f o)) :
    Judged (value :: components) (octet value >>= f) := by
  unfold octet
  by_cases hsmall : value < 256
  · rw [dif_pos ⟨hvalue, hsmall⟩]
    obtain ⟨hall, hok⟩ | ⟨large, hlarge, hrest⟩ := hrest ⟨value.toNat, by omega⟩
    · exact .inl ⟨List.forall_mem_cons.2 ⟨by omega, hall⟩, hok⟩
    · exact .inr ⟨large, List.mem_cons_of_mem _ hlarge, hrest⟩
  · rw [dif_neg fun hboth => hsmall hboth.2]
    exact .inr ⟨value, List.mem_cons_self, by omega, rfl⟩

theorem judged_ofComponents {components : List Int} (hlength : components.length = 6)
    (hnonneg : ∀ value ∈ components, 0 ≤ value) :
    Judged components (ofComponents components) := by
  match components, hlength with
  | [a, b, c, d, high, low], _ =>
    simp only [List.forall_mem_cons] at hnonneg
    obtain ⟨ha, hb, hc, hd, hhigh, hlow, -⟩ := hnonneg
    apply judged_octet ha
    intro a
    apply judged_octet hb
    intro b
    apply judged_octet hc
    intro c
    apply judged_octet hd
    intro d
    apply judged_octet hhigh
    intro high
    apply judged_octet hlow
    intro low
    exact judged_ok _

theorem ofPassive_error {text : String} {f : Fault} (h : ofPassive text = .error f) :
    (Oversized text ∧ ∃ value, f = .componentOutOfRange value) ∨
      (¬ Oversized text ∧ f = .malformedPassive text) := by
  unfold ofPassive at h
  unfold Oversized
  cases hscan : (tupleRegion? text.toList).bind (scan []) with
  | none =>
    rw [hscan] at h
    cases h
    exact .inr ⟨by simp, rfl⟩
  | some components =>
    rw [hscan] at h
    dsimp only at h
    have hnonneg : ∀ value ∈ components, 0 ≤ value := by
      obtain ⟨region, -, hregion⟩ := Option.bind_eq_some_iff.1 hscan
      exact scan_nonneg hregion
    split_ifs at h with hlength
    · obtain ⟨-, e, hok⟩ | ⟨value, hvalue, hlarge, herror⟩ := judged_ofComponents hlength hnonneg
      · rw [hok] at h
        cases h
      · rw [herror] at h
        cases h
        exact .inl ⟨⟨components, rfl, hlength, value, hvalue, hlarge⟩, value, rfl⟩
    · cases h
      refine .inr ⟨?_, rfl⟩
      rintro ⟨_, hcomponents, hsix, -⟩
      cases hcomponents
      exact hlength hsix

theorem kind_of_ofPassive_error {text : String} {f : Fault} (h : ofPassive text = .error f) :
    f.kind = .protocol := by
  obtain ⟨-, value, rfl⟩ | ⟨-, rfl⟩ := ofPassive_error h
  · rfl
  · rfl

end Endpoint

end FtpControl
