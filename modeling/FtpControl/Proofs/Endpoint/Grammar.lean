import FtpControl.Proofs.Endpoint.Refusal
import FtpControl.Proofs.Endpoint.RoundTrip

/-!
# The grammar of a tuple

A tuple announces an endpoint when the pieces between its commas are six numerals of octets.
The numerals need not be the shortest ones, and one comma may follow the last of them. The main
statement is that no other text between the first parentheses of a passive reply announces
anything, and that all others are refused as faults of the server.
-/

namespace FtpControl

namespace Endpoint

/-! ## Components -/

/-- A numeral for a component. Zeros may stand in front. -/
structure Spells (piece : List Char) (value : Int) : Prop where
  ne_nil : piece ≠ []
  digits : ∀ c ∈ piece, Text.isAsciiDigit c = true
  length_le : piece.length ≤ Text.maxDigits
  value_eq : (Text.ofDigits (piece.map Text.asciiValue) : Int) = value

variable {piece region : List Char} {pieces : List (List Char)} {value : Int} {values : List Int}

theorem component?_eq_some_iff (hdigits : ∀ c ∈ piece, Text.isAsciiDigit c = true) :
    component? piece = some value ↔ Spells piece value := by
  unfold component?
  constructor
  · intro h
    split_ifs at h with hbad
    rw [not_or, not_lt] at hbad
    exact ⟨hbad.1, hdigits, hbad.2, Option.some.inj h⟩
  · intro h
    rw [if_neg (not_or.2 ⟨h.ne_nil, not_lt.2 h.length_le⟩), h.value_eq]

theorem scan_piece (h : Spells piece value) : scan [] piece = some [value] := by
  have hscan := scan_digits h.digits [] []
  rw [List.append_nil, List.nil_append] at hscan
  rw [hscan, scan, if_neg h.ne_nil, (component?_eq_some_iff h.digits).2 h]
  rfl

theorem scan_piece_comma (h : Spells piece value) (rest : List Char) :
    scan [] (piece ++ ',' :: rest) = (scan [] rest).map (value :: ·) := by
  have hcomma : Text.isAsciiDigit ',' = false := by decide
  rw [scan_digits h.digits, List.nil_append, scan, hcomma, if_neg Bool.false_ne_true, if_pos rfl,
    (component?_eq_some_iff h.digits).2 h]
  cases scan [] rest <;> rfl

/-! ## Regions -/

/-- The pieces of a region; an empty one behind the last comma does not count. -/
def Divides (region : List Char) (pieces : List (List Char)) : Prop :=
  Text.fields ',' region = pieces ∨ Text.fields ',' region = pieces ++ [[]]

theorem scan_join (h : List.Forall₂ Spells pieces values) :
    scan [] (Text.join [','] pieces) = some values := by
  induction h with
  | nil => rfl
  | @cons piece value pieces values hpiece hpieces ih =>
    cases hpieces with
    | nil => exact scan_piece hpiece
    | cons =>
      rw [Text.join, List.append_assoc, List.singleton_append, scan_piece_comma hpiece, ih]
      rfl

theorem scan_join_comma (h : List.Forall₂ Spells pieces values) :
    scan [] (Text.join [','] (pieces ++ [[]])) = some values := by
  induction h with
  | nil => rfl
  | @cons piece value pieces values hpiece hpieces ih =>
    rw [List.cons_append, Text.join_cons _ _ (by simp), List.append_assoc, List.singleton_append,
      scan_piece_comma hpiece, ih]
    rfl

theorem divides_cons (hpiece : ',' ∉ piece) (h : Divides region pieces) :
    Divides (piece ++ ',' :: region) (piece :: pieces) := by
  unfold Divides
  rw [Text.fields_append hpiece]
  obtain h | h := h
  · exact .inl (by rw [h])
  · exact .inr (by rw [h, List.cons_append])

theorem divides_of_scan {digits rest : List Char}
    (hdigits : ∀ c ∈ digits, Text.isAsciiDigit c = true) (h : scan digits rest = some values) :
    ∃ pieces, Divides (digits ++ rest) pieces ∧ List.Forall₂ Spells pieces values := by
  have hcomma : ',' ∉ digits := by
    intro hc
    have hdigit := hdigits ',' hc
    contradiction
  -- The digits under way change along the region, so they are generalized too.
  induction rest generalizing digits values with
  | nil =>
    rw [List.append_nil]
    unfold scan at h
    split_ifs at h with hnil
    · cases h
      subst hnil
      exact ⟨[], .inr rfl, .nil⟩
    · obtain ⟨value, hvalue, hlast⟩ := Option.bind_eq_some_iff.1 h
      cases hlast
      have hspells := (component?_eq_some_iff hdigits).1 hvalue
      exact ⟨[digits], .inl (Text.fields_of_not_mem hcomma), .cons hspells .nil⟩
  | cons c rest ih =>
    unfold scan at h
    split_ifs at h with hc hsep
    · have hmore : ∀ d ∈ digits ++ [c], Text.isAsciiDigit d = true := by
        intro d hd
        obtain hd | hd := List.mem_append.1 hd
        · exact hdigits d hd
        · rwa [List.mem_singleton.1 hd]
      have hfree : ',' ∉ digits ++ [c] := by
        intro hmem
        have hdigit := hmore ',' hmem
        contradiction
      obtain ⟨pieces, hdivides, hspells⟩ := ih hmore h hfree
      rw [List.append_assoc, List.singleton_append] at hdivides
      exact ⟨pieces, hdivides, hspells⟩
    · subst hsep
      obtain ⟨value, hvalue, h⟩ := Option.bind_eq_some_iff.1 h
      obtain ⟨later, hlater, hall⟩ := Option.bind_eq_some_iff.1 h
      cases hall
      have hnone : ∀ d ∈ ([] : List Char), Text.isAsciiDigit d = true := by simp
      obtain ⟨pieces, hdivides, hspells⟩ := ih hnone hlater List.not_mem_nil
      have hspell := (component?_eq_some_iff hdigits).1 hvalue
      exact ⟨digits :: pieces, divides_cons hcomma hdivides, .cons hspell hspells⟩

/-- What a region is read as. -/
theorem scan_eq_some_iff :
    scan [] region = some values ↔
      ∃ pieces, Divides region pieces ∧ List.Forall₂ Spells pieces values := by
  constructor
  · intro h
    exact divides_of_scan (by simp) h
  · rintro ⟨pieces, hdivides | hdivides, hspells⟩
    · rw [← Text.join_fields ',' region, hdivides]
      exact scan_join hspells
    · rw [← Text.join_fields ',' region, hdivides]
      exact scan_join_comma hspells

/-! ## Six octets -/

theorem octet_eq_ok_iff {o : Octet} : octet value = .ok o ↔ value = o.val := by
  constructor
  · intro h
    unfold octet at h
    split_ifs at h with hrange
    cases h
    exact (Int.toNat_of_nonneg hrange.1).symm
  · rintro rfl
    exact octet_val o

theorem octet_bind_eq_ok {α : Type} {f : Octet → Except Fault α} {a : α}
    (h : octet value >>= f = .ok a) : ∃ o : Octet, value = o.val ∧ f o = .ok a := by
  cases ho : octet value with
  | error fault =>
    rw [ho] at h
    cases h
  | ok o =>
    rw [ho] at h
    exact ⟨o, octet_eq_ok_iff.1 ho, h⟩

theorem ofComponents_eq_ok_iff {e : Endpoint} :
    ofComponents values = .ok e ↔ values = e.octets.map fun o => (o.val : Int) := by
  constructor
  · intro h
    unfold ofComponents at h
    split at h
    · obtain ⟨a, ha, h₁⟩ := octet_bind_eq_ok h
      obtain ⟨b, hb, h₂⟩ := octet_bind_eq_ok h₁
      obtain ⟨c, hc, h₃⟩ := octet_bind_eq_ok h₂
      obtain ⟨d, hd, h₄⟩ := octet_bind_eq_ok h₃
      obtain ⟨high, hhigh, h₅⟩ := octet_bind_eq_ok h₄
      obtain ⟨low, hlow, h₆⟩ := octet_bind_eq_ok h₅
      cases h₆
      simp [octets, IPv4.octets, ha, hb, hc, hd, hhigh, hlow]
    · cases h
  · rintro rfl
    exact ofComponents_octets e

/-! ## Passive replies -/

theorem ofPassive_eq_ok_iff {text : String} (hregion : tupleRegion? text.toList = some region)
    {e : Endpoint} :
    ofPassive text = .ok e ↔ scan [] region = some (e.octets.map fun o => (o.val : Int)) := by
  unfold ofPassive
  rw [hregion, Option.bind_some]
  cases hscan : scan [] region with
  | none => simp
  | some components =>
    dsimp only
    rw [Option.some_inj, ← ofComponents_eq_ok_iff]
    split_ifs with hlength
    · rfl
    · constructor
      · intro h
        cases h
      · intro h
        rw [ofComponents_eq_ok_iff.1 h] at hlength
        simp [octets, IPv4.octets] at hlength

/-- Six numerals of octets: the four of the host, then the high and the low one of the port. -/
def Announces (pieces : List (List Char)) (e : Endpoint) : Prop :=
  ∃ a b c d high low : Octet,
    List.Forall₂ (fun piece (o : Octet) => Spells piece o.val) pieces [a, b, c, d, high, low] ∧
      e = ⟨⟨a, b, c, d⟩, portOf high low⟩

theorem announces_iff {e : Endpoint} :
    Announces pieces e ↔ List.Forall₂ Spells pieces (e.octets.map fun o => (o.val : Int)) := by
  rw [List.forall₂_map_right_iff]
  constructor
  · rintro ⟨a, b, c, d, high, low, hspells, rfl⟩
    simpa [octets, IPv4.octets] using hspells
  · intro h
    exact ⟨_, _, _, _, _, _, h, by simp⟩

theorem ofPassive_eq_ok_iff_announces {text : String}
    (hregion : tupleRegion? text.toList = some region) {e : Endpoint} :
    ofPassive text = .ok e ↔ ∃ pieces, Divides region pieces ∧ Announces pieces e := by
  rw [ofPassive_eq_ok_iff hregion, scan_eq_some_iff]
  simp only [announces_iff]

/-- A text between the first parentheses announces an endpoint exactly when its pieces do, the
last comma ending a piece or not. Whatever else stands there is a fault of the server. -/
theorem ofPassive_parentheses_iff {before inside : String} (hopen : '(' ∉ before.toList)
    (hclose : ')' ∉ before.toList) (hinside : ')' ∉ inside.toList) (after : String) :
    let text := before ++ "(" ++ inside ++ ")" ++ after
    (∀ e, ofPassive text = .ok e ↔
      ∃ pieces, Divides inside.toList pieces ∧ Announces pieces e) ∧
        ∀ f, ofPassive text = .error f → f.kind = .protocol := by
  intro text
  have hregion := tupleRegion?_of_parentheses hopen hclose hinside after
  constructor
  · intro e
    exact ofPassive_eq_ok_iff_announces hregion
  · intro f hf
    exact kind_of_ofPassive_error hf

/-- Leading zeros, and a comma behind the last octet. -/
theorem ofPassive_loose_tuple :
    let inside := "010,0,00,1,0,255,"
    '(' ∉ "on ".toList ∧ ')' ∉ "on ".toList ∧ ')' ∉ inside.toList ∧
      ofPassive ("on " ++ "(" ++ inside ++ ")" ++ ".") = .ok ⟨⟨10, 0, 0, 1⟩, 255⟩ ∧
        ∃ pieces, Divides inside.toList pieces ∧ Announces pieces ⟨⟨10, 0, 0, 1⟩, 255⟩ := by
  intro inside
  have hinside : ')' ∉ inside.toList := by decide
  have hrun : ofPassive ("on " ++ "(" ++ inside ++ ")" ++ ".") = .ok ⟨⟨10, 0, 0, 1⟩, 255⟩ := by
    decide +kernel
  exact ⟨by decide, by decide, hinside, hrun,
    ((ofPassive_parentheses_iff (by decide) (by decide) hinside ".").1 _).1 hrun⟩

end Endpoint

end FtpControl
