import FtpControl.Proofs.Endpoint.Grammar
import FtpControl.Proofs.Text.Capitals

/-!
# Tuples behind a word

In a text without parentheses the tuple stands behind the last word `MODE`, whose place is found
in the capitals of the text. Letters with several capitals move that place to the right, and the
blanks behind the word are all that can be skipped without harm. The main statement is that the
written endpoint is announced exactly if there are as many blanks as surplus capitals.
-/

namespace FtpControl

/-! ## No tuple is shorter than the written one -/

theorem Text.ofDigits_lt {digits : List Nat} (h : ∀ d ∈ digits, d < 10) :
    ofDigits digits < 10 ^ digits.length := by
  have hfrom : ∀ n, digits.foldl (fun n d => 10 * n + d) n < (n + 1) * 10 ^ digits.length := by
    induction digits with
    | nil => simp
    | cons d digits ih =>
      intro n
      rw [List.forall_mem_cons] at h
      calc
        _ < (10 * n + d + 1) * 10 ^ digits.length := ih h.2 (10 * n + d)
        _ ≤ (10 * (n + 1)) * 10 ^ digits.length := Nat.mul_le_mul_right _ (by omega)
        _ = (n + 1) * 10 ^ (digits.length + 1) := by ring
  simpa [ofDigits] using hfrom 0

theorem Text.length_join_le {α : Type} (glue : List α) {fs gs : List (List α)}
    (h : List.Forall₂ (fun f g => f.length ≤ g.length) fs gs) :
    (join glue fs).length ≤ (join glue gs).length := by
  induction h with
  | nil => rfl
  | cons hfirst hrest ih =>
    cases hrest with
    | nil => exact hfirst
    | cons =>
      simp only [join, List.length_append] at ih ⊢
      omega

theorem Text.length_join_snoc {α : Type} (glue : List α) (fs : List (List α)) :
    (join glue fs).length ≤ (join glue (fs ++ [[]])).length := by
  induction fs with
  | nil => simp [join]
  | cons f fs ih =>
    cases fs with
    | nil =>
      simp only [join, List.singleton_append, List.length_append]
      omega
    | cons g fs =>
      simp only [join, List.cons_append, List.length_append] at ih ⊢
      omega

namespace Endpoint

variable {piece region : List Char} {pieces : List (List Char)} {e : Endpoint}

/-- The shortest numeral of an octet is the one without leading zeros. -/
theorem length_numeral_le {o : Octet} (h : Spells piece o.val) :
    (Nat.toDigits 10 o.val).length ≤ piece.length := by
  have hdigits : ∀ d ∈ piece.map Text.asciiValue, d < 10 := by
    intro d hd
    obtain ⟨c, hc, rfl⟩ := List.mem_map.1 hd
    exact Text.asciiValue_lt_ten (h.digits c hc)
  have hvalue : Text.ofDigits (piece.map Text.asciiValue) = o.val := by exact_mod_cast h.value_eq
  have hsmall := Text.ofDigits_lt hdigits
  rw [hvalue, List.length_map] at hsmall
  exact (Nat.length_toDigits_le_iff (by decide) (List.length_pos_iff.2 h.ne_nil)).2 hsmall

theorem length_argument_le (hdivides : Divides region pieces) (h : Announces pieces e) :
    e.argument.toList.length ≤ region.length := by
  have hshorter : List.Forall₂ (fun f g => f.length ≤ g.length)
      (e.octets.map fun o => Nat.toDigits 10 o.val) pieces := by
    rw [announces_iff, List.forall₂_map_right_iff] at h
    rw [List.forall₂_map_left_iff]
    apply List.Forall₂.flip
    exact h.imp fun _ _ hspells => length_numeral_le hspells
  have hlength := Text.length_join_le [','] hshorter
  rw [toList_argument, ← Text.join_fields ',' region]
  obtain hpieces | hpieces := hdivides
  · rwa [hpieces]
  · rw [hpieces]
    exact hlength.trans (Text.length_join_snoc _ _)

theorem length_argument_pos (e : Endpoint) : 0 < e.argument.toList.length := by
  rw [toList_argument]
  simp [octets, IPv4.octets, Text.join]

/-! ## The place of the word -/

/-- The characters of which tuples are made. -/
def InTuple (c : Char) : Prop :=
  Text.isAsciiDigit c = true ∨ c = ','

instance (c : Char) : Decidable (InTuple c) :=
  inferInstanceAs (Decidable (_ ∨ _))

theorem upperChar_of_inTuple {c : Char} (h : InTuple c) : Text.upperChar c = [c] := by
  obtain h | rfl := h
  · exact Text.upperChar_of_isAsciiDigit h
  · rfl

theorem not_isBlank_of_inTuple {c : Char} (h : InTuple c) : Text.isBlank c = false := by
  obtain h | rfl := h
  · rw [Text.isAsciiDigit_iff] at h
    simp [Text.isBlank]
    omega
  · rfl

theorem inTuple_of_mem_argument {c : Char} (h : c ∈ e.argument.toList) : InTuple c := by
  by_contra hc
  rw [InTuple, not_or] at hc
  rw [toList_argument] at h
  apply Text.not_mem_join hc.2 _ h
  intro f hf
  obtain ⟨o, -, rfl⟩ := List.mem_map.1 hf
  exact Text.not_mem_toDigits (by simpa using hc.1) o.val

variable {before mode gap core rest : List Char}

/-- The last word is the one before the tuple. -/
theorem lastIndexOf?_mode (hmode : Text.upper mode = "MODE".toList)
    (hgap : ∀ c ∈ gap, Text.isBlank c = true) (hcore : ∀ c ∈ core, InTuple c)
    (hrest : ∀ c ∈ rest, Text.isBlank c = true) :
    Text.lastIndexOf? "MODE".toList (Text.upper (before ++ (mode ++ (gap ++ (core ++ rest))))) =
      some (Text.upper before).length := by
  have htail : Text.upper (gap ++ (core ++ rest)) = gap ++ (core ++ rest) := by
    apply Text.upper_of_forall
    intro c hc
    simp only [List.mem_append] at hc
    obtain hc | hc | hc := hc
    · exact Text.upperChar_of_isBlank (hgap c hc)
    · exact upperChar_of_inTuple (hcore c hc)
    · exact Text.upperChar_of_isBlank (hrest c hc)
  have hnone : 'M' ∉ gap ++ (core ++ rest) := by
    intro hM
    simp only [List.mem_append] at hM
    obtain hM | hM | hM := hM
    · exact absurd (hgap _ hM) (by decide)
    · exact absurd (hcore _ hM) (by decide)
    · exact absurd (hrest _ hM) (by decide)
  have hpattern : 'M' ∉ ['O', 'D', 'E'] := by decide
  have hlast :
      Text.lastIndexOf? "MODE".toList ("MODE".toList ++ (gap ++ (core ++ rest))) = some 0 :=
    Text.lastIndexOf?_of_last hpattern hnone
  rw [Text.upper_append, Text.upper_append, hmode, htail, Text.lastIndexOf?_append hlast]
  rfl

/-- A sign that is its own capital stands in no spelling of the word. -/
theorem not_mem_mode {sign : Char} (hself : Text.upperChar sign = [sign])
    (hsign : sign ∉ "MODE".toList) (hblank : Text.isBlank sign = false) (htuple : ¬ InTuple sign)
    (hbefore : sign ∉ before) (hmode : Text.upper mode = "MODE".toList)
    (hgap : ∀ c ∈ gap, Text.isBlank c = true) (hcore : ∀ c ∈ core, InTuple c)
    (hrest : ∀ c ∈ rest, Text.isBlank c = true) :
    sign ∉ before ++ (mode ++ (gap ++ (core ++ rest))) := by
  intro hin
  simp only [List.mem_append] at hin
  obtain hin | hin | hin | hin | hin := hin
  · exact hbefore hin
  · rw [← hmode] at hsign
    exact hsign (Text.mem_upper_of_mem hself hin)
  · rw [hgap sign hin] at hblank
    contradiction
  · exact htuple (hcore sign hin)
  · rw [hrest sign hin] at hblank
    contradiction

theorem drop_behind {α : Type} {front word : List α} {n : Nat} (h : front.length ≤ n)
    (tail : List α) :
    (front ++ (word ++ tail)).drop (n + word.length) = tail.drop (n - front.length) := by
  have hsplit : n + word.length = front.length + (word.length + (n - front.length)) := by omega
  rw [hsplit, List.drop_length_add_append, List.drop_length_add_append]

/-- Surplus capitals before the word cut off the beginning of the tuple, unless there are enough
blanks. -/
theorem tupleRegion?_mode (hopen : '(' ∉ before) (hclose : ')' ∉ before)
    (hmode : Text.upper mode = "MODE".toList) (hlength : mode.length = 4)
    (hgap : ∀ c ∈ gap, Text.isBlank c = true) (hcore : ∀ c ∈ core, InTuple c)
    (hrest : ∀ c ∈ rest, Text.isBlank c = true) :
    tupleRegion? (before ++ (mode ++ (gap ++ (core ++ rest)))) =
      some (core.drop ((Text.upper before).length - (before.length + gap.length))) := by
  have hparens : '(' ∉ before ++ (mode ++ (gap ++ (core ++ rest))) ∧
      ')' ∉ before ++ (mode ++ (gap ++ (core ++ rest))) := by
    constructor
    · exact not_mem_mode (by decide) (by decide) (by decide) (by decide) hopen hmode hgap hcore
        hrest
    · exact not_mem_mode (by decide) (by decide) (by decide) (by decide) hclose hmode hgap hcore
        hrest
  have hlonger := Text.length_le_upper before
  have hskipped : ((gap ++ (core ++ rest)).drop ((Text.upper before).length - before.length)) =
      gap.drop ((Text.upper before).length - before.length) ++
        (core.drop ((Text.upper before).length - before.length - gap.length) ++
          rest.drop ((Text.upper before).length - before.length - gap.length - core.length)) := by
    rw [List.drop_append, List.drop_append]
  have hfront : ∀ n, ∀ c ∈ gap.drop n, Text.isBlank c = true := by
    intro n c hc
    exact hgap c (List.mem_of_mem_drop hc)
  have hmiddle : ∀ n, ∀ c ∈ core.drop n, Text.isBlank c = false := by
    intro n c hc
    exact not_isBlank_of_inTuple (hcore c (List.mem_of_mem_drop hc))
  have hback : ∀ n, ∀ c ∈ rest.drop n, Text.isBlank c = true := by
    intro n c hc
    exact hrest c (List.mem_of_mem_drop hc)
  rw [tupleRegion?, if_pos hparens, afterMode?, lastIndexOf?_mode hmode hgap hcore hrest,
    Option.map_some, ← hlength, drop_behind hlonger, hskipped,
    Text.trim_append (hfront _) (hmiddle _) (hback _), Nat.sub_sub]

/-! ## The written endpoint -/

/-- Basic letters have no longer capitals, so every spelling of the word has four letters. -/
theorem upper_of_mode {mode : String} (h : mode.toUpper = "MODE") :
    Text.upper mode.toList = "MODE".toList ∧ mode.toList.length = 4 := by
  have hletters : mode.toList.map Char.toUpper = "MODE".toList := by
    rw [← h, String.toUpper, String.toList_map]
  have hbasic : ∀ c ∈ mode.toList, c.toUpper.toNat < 0x80 := by
    intro c hc
    have hcodes : ∀ d ∈ "MODE".toList, d.toNat < 0x80 := by simp
    apply hcodes
    rw [← hletters]
    exact List.mem_map_of_mem hc
  constructor
  · rw [Text.upper_of_toUpper hbasic, hletters]
  · rw [← List.length_map Char.toUpper, hletters]
    rfl

/-- The written endpoint is announced exactly if the surplus capitals before the word are made up
for by blanks behind it. -/
theorem ofPassive_mode_iff (ip : IPv4) (port : Fin 65536) {before mode gap rest : String}
    (hopen : '(' ∉ before.toList) (hclose : ')' ∉ before.toList) (hmode : mode.toUpper = "MODE")
    (hgap : ∀ c ∈ gap.toList, Text.isBlank c = true)
    (hrest : ∀ c ∈ rest.toList, Text.isBlank c = true) :
    ∃ e, ofAddress ip.dotted port.val = .ok e ∧ e.address = ⟨ip.dotted, port.val⟩ ∧
      (ofPassive (before ++ mode ++ gap ++ e.argument ++ rest) = .ok e ↔
        (Text.upper before.toList).length ≤ before.length + gap.length) := by
  refine ⟨⟨ip, port⟩, ofAddress_dotted ⟨ip, port⟩, rfl, ?_⟩
  generalize (⟨ip, port⟩ : Endpoint) = e
  obtain ⟨hword, hlength⟩ := upper_of_mode hmode
  have hregion : tupleRegion? (before ++ mode ++ gap ++ e.argument ++ rest).toList =
      some (e.argument.toList.drop
        ((Text.upper before.toList).length - (before.length + gap.length))) := by
    simp only [String.toList_append, List.append_assoc]
    exact tupleRegion?_mode hopen hclose hword hlength hgap
      (fun _ hc => inTuple_of_mem_argument hc) hrest
  constructor
  · intro h
    obtain ⟨pieces, hdivides, hannounces⟩ := (ofPassive_eq_ok_iff_announces hregion).1 h
    have hshort := length_argument_le hdivides hannounces
    rw [List.length_drop] at hshort
    have hpos := length_argument_pos e
    omega
  · intro h
    rw [ofPassive_eq_ok_iff hregion, Nat.sub_eq_zero_of_le h, List.drop_zero, toList_argument]
    exact scan_octets e.octets

/-- The two capitals of `ß` are made up for by a blank. -/
theorem ofPassive_mode_sharp :
    '(' ∉ "Straße ".toList ∧ ')' ∉ "Straße ".toList ∧ "mOdE".toUpper = "MODE" ∧
      (∀ c ∈ " ".toList, Text.isBlank c = true) ∧ (∀ c ∈ "\r\n".toList, Text.isBlank c = true) ∧
        ∃ e, ofAddress (IPv4.dotted ⟨10, 0, 0, 1⟩) (21 : Fin 65536).val = .ok e ∧
          ofPassive ("Straße " ++ "mOdE" ++ " " ++ e.argument ++ "\r\n") = .ok e := by
  have hmode : "mOdE".toUpper = "MODE" := by
    rw [String.toUpper, ← String.toList_inj, String.toList_map]
    decide
  have hgap : ∀ c ∈ " ".toList, Text.isBlank c = true := by simp [Text.isBlank]
  have hrest : ∀ c ∈ "\r\n".toList, Text.isBlank c = true := by simp [Text.isBlank]
  obtain ⟨e, he, -, hiff⟩ := @ofPassive_mode_iff ⟨10, 0, 0, 1⟩ 21 "Straße " "mOdE" " " "\r\n"
    (by decide) (by decide) hmode hgap hrest
  exact ⟨by decide, by decide, hmode, hgap, hrest, e, he, hiff.2 (by decide)⟩

end Endpoint

end FtpControl
