import FtpControl.Proofs.Probe.Commands
import FtpControl.Proofs.Session.Secrecy
import FtpControl.Proofs.Text.Capitals

/-!
# Remarks on verbs

The probe takes a command up to its first space for the verb, and warns of a verb that it does
not know. A password command that is not written with a space behind `PASS`, or with blanks
before it, is masked everywhere but in this warning.
-/

namespace FtpControl

open Effect Live

namespace Command

/-- Commands that are the same, or both masked. -/
def Twin (command command' : String) : Prop :=
  command = command' ∨ Masked command ∧ Masked command'

theorem not_cramped_of_masked {command : String} (h : Masked command) : ¬ Cramped command :=
  fun hcramped => absurd h.1 (not_le.2 hcramped.2)

variable {command command' : String}

theorem Twin.masked_eq (h : Twin command command') : masked command = masked command' := by
  obtain rfl | ⟨hm, hm'⟩ := h
  · rfl
  · exact masked_congr hm hm'

/-- Of twins that cannot be masked there is only one. -/
theorem Twin.eq_of_cramped (h : Twin command command') (hcramped : Cramped command) :
    command = command' :=
  h.resolve_right fun hm => not_cramped_of_masked hm.1 hcramped

theorem Twin.cramped_iff (h : Twin command command') : Cramped command ↔ Cramped command' := by
  obtain rfl | ⟨hm, hm'⟩ := h
  · rfl
  · exact iff_of_false (not_cramped_of_masked hm) (not_cramped_of_masked hm')

end Command

theorem Text.trimStart_of_head {cs : List Char} (h : ∀ c ∈ cs.head?, isBlank c = false) :
    trimStart cs = cs := by
  cases cs with
  | nil => rfl
  | cons c cs => exact List.dropWhile_cons_of_neg (by simp [h c rfl])

theorem Text.firstField_of_head {cs : List Char} {sep : Char} (h : sep ∈ cs.head?) :
    firstField sep cs = [] := by
  cases cs with
  | nil => rfl
  | cons c cs =>
    cases h
    exact List.takeWhile_cons_of_neg (by simp)

theorem Text.mem_firstField_of_head {cs : List Char} {sep c : Char} (h : c ∈ cs.head?)
    (hne : c ≠ sep) : c ∈ firstField sep cs := by
  cases cs with
  | nil => cases h
  | cons d cs =>
    cases h
    rw [firstField, List.takeWhile_cons_of_pos (by simpa using hne)]
    exact List.mem_cons_self

/-- The verb of a password command goes on behind `PASS` up to the next space. -/
theorem Text.firstField_of_upper {cs : List Char} (h : upper (cs.take 4) = "PASS".toList) :
    firstField ' ' cs = cs.take 4 ++ firstField ' ' (cs.drop 4) := by
  have hspace : ' ' ∉ cs.take 4 := by
    intro hmem
    have hupper := mem_upper_of_isBlank (by decide) hmem
    rw [h] at hupper
    exact absurd hupper (by decide)
  conv_lhs => rw [← List.take_append_drop 4 cs]
  apply List.takeWhile_append_of_pos
  intro c hc
  have hne : c ≠ ' ' := fun h => hspace (h ▸ hc)
  simpa using hne

namespace Verb

theorem known_ne_nil : ∀ k ∈ known, k.toList ≠ [] := by decide

theorem not_isBlank_of_known {k : String} (hk : k ∈ known) {c : Char} (hc : c ∈ k.toList) :
    Text.isBlank c = false := by
  have hall : ∀ k ∈ known, (k.toList.all fun c => !Text.isBlank c) = true := by decide
  have hblank := List.all_eq_true.1 (hall k hk) c hc
  simpa using hblank

/-- A known verb is not empty and has no blank in it. -/
theorem of_isKnown {cs : List Char} (h : isKnown (String.ofList cs) = true) :
    cs ≠ [] ∧ ∀ c ∈ cs, Text.isBlank c = false := by
  obtain ⟨k, hk, hupper⟩ := isKnown_iff.1 h
  rw [String.toList_ofList] at hupper
  constructor
  · rintro rfl
    exact known_ne_nil k hk hupper.symm
  · intro c hc
    by_contra hblank
    have hmem := Text.mem_upper_of_isBlank (by simpa using hblank) hc
    rw [hupper] at hmem
    exact hblank (not_isBlank_of_known hk hmem)

end Verb

/-- A password command as it is usually written: without blanks before it, and with a space
before the password. -/
def Command.Plain (command : String) : Prop :=
  (∀ c ∈ command.toList.head?, Text.isBlank c = false) ∧ ∀ c ∈ command.toList[4]?, c = ' '

namespace Probe

/-! ## Remarks -/

/-- What the probe has to say about the verb of a command. -/
def remark? (command : String) : Option String :=
  let verb := String.ofList (Text.firstField ' ' command.toList)
  if Verb.isKnown verb then none
  else match Verb.suggestion? verb Verb.usualReach with
    | some k => some s!"Unknown verb {Text.quoted verb}, did you mean {k}?"
    | none => some s!"Unknown verb {Text.quoted verb}"

theorem checkVerb_eq (command : String) :
    checkVerb command =
      match remark? command with
      | some remark => log .warning remark
      | none => pure () := by
  unfold checkVerb remark?
  dsimp only
  split_ifs
  · rfl
  · cases Verb.suggestion? (String.ofList (Text.firstField ' ' command.toList))
      Verb.usualReach <;> rfl

theorem remark?_eq_none_iff {command : String} :
    remark? command = none ↔
      Verb.isKnown (String.ofList (Text.firstField ' ' command.toList)) = true := by
  unfold remark?
  dsimp only
  split_ifs with hknown
  · simp [hknown]
  · cases Verb.suggestion? (String.ofList (Text.firstField ' ' command.toList))
      Verb.usualReach <;> simp [hknown]

/-- Of the masked commands those go without remark that are plainly written. -/
theorem remark?_eq_none_iff_plain {command : String} (h : Command.Masked command) :
    remark? command = none ↔ Command.Plain command := by
  rw [remark?_eq_none_iff]
  unfold Command.Plain
  unfold Command.Masked at h
  generalize command.toList = cs at h ⊢
  constructor
  · intro hknown
    obtain ⟨hne, hfree⟩ := Verb.of_isKnown hknown
    have hhead : ∀ c ∈ cs.head?, Text.isBlank c = false := by
      intro c hc
      by_cases hspace : c = ' '
      · subst hspace
        exact absurd (Text.firstField_of_head hc) hne
      · exact hfree c (Text.mem_firstField_of_head hc hspace)
    rw [Text.trimStart_of_head hhead] at h
    obtain ⟨-, hupper, hblank⟩ := h
    refine ⟨hhead, fun c hc => ?_⟩
    by_contra hspace
    have hmem : c ∈ Text.firstField ' ' cs := by
      rw [Text.firstField_of_upper hupper]
      apply List.mem_append_right
      exact Text.mem_firstField_of_head (by rwa [List.head?_drop]) hspace
    have hfifth := hblank c hc
    rw [hfree c hmem] at hfifth
    contradiction
  · rintro ⟨hhead, hfifth⟩
    rw [Text.trimStart_of_head hhead] at h
    obtain ⟨-, hupper, -⟩ := h
    have hverb : Text.firstField ' ' cs = cs.take 4 := by
      rw [Text.firstField_of_upper hupper]
      cases hrest : cs.drop 4 with
      | nil => simp [Text.firstField]
      | cons c rest =>
        have hc : c ∈ cs[4]? := by rw [← List.head?_drop, hrest]; rfl
        rw [Text.firstField_of_head (by rw [hfifth c hc]; rfl), List.append_nil]
    rw [hverb, Verb.isKnown_iff]
    exact ⟨"PASS", by decide, by rw [String.toList_ofList, hupper]⟩

/-- The remarks on all commands that can be come to: a run does not survive a command that
cannot be masked. -/
def remarks (commands : List String) : List (Option String) :=
  (commands.takeWhile fun command => ¬ Command.Cramped command).map remark?

theorem remarks_cons {command : String} (h : ¬ Command.Cramped command) (rest : List String) :
    remarks (command :: rest) = remark? command :: remarks rest := by
  rw [remarks, List.takeWhile_cons_of_pos (by simpa using h), List.map_cons, remarks]

theorem remarks_cons_cramped {command : String} (h : Command.Cramped command)
    (rest : List String) : remarks (command :: rest) = [] := by
  rw [remarks, List.takeWhile_cons_of_neg (by simpa using h), List.map_nil]

/-- Twins that are plainly written where they are masked go on with the same remarks. -/
theorem remarks_eq_of_plain {commands commands' : List String}
    (h : List.Forall₂ Command.Twin commands commands')
    (hplain : ∀ command ∈ commands ++ commands', Command.Masked command → Command.Plain command) :
    remarks commands = remarks commands' := by
  induction h with
  | nil => rfl
  | @cons command command' rest rest' hcommand _ ih =>
    simp only [List.mem_append, List.mem_cons] at hplain ih
    have hrest : remarks rest = remarks rest' := ih fun c hc => hplain c (hc.imp .inr .inr)
    have hremark : remark? command = remark? command' := by
      obtain rfl | ⟨hm, hm'⟩ := hcommand
      · rfl
      · rw [(remark?_eq_none_iff_plain hm).2 (hplain _ (.inl (.inl rfl)) hm),
          (remark?_eq_none_iff_plain hm').2 (hplain _ (.inr (.inl rfl)) hm')]
    by_cases hcramped : Command.Cramped command
    · rw [remarks_cons_cramped hcramped, remarks_cons_cramped (hcommand.cramped_iff.1 hcramped)]
    · rw [remarks_cons hcramped, remarks_cons (mt hcommand.cramped_iff.2 hcramped), hremark, hrest]

end Probe

end FtpControl
