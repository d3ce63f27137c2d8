/-!
# Lenient UTF-8

Bytes are read one at a time. What cannot be part of a well-formed character becomes one
replacement character for each longest piece that some character could have begun with; the
byte that breaks a piece off is then read afresh. No input is refused, and a text that was
encoded is read back as it was, whatever follows it.
-/

namespace FtpControl.Text

def replacement : Char := '\uFFFD'

/-- Where the reader stands: between characters, or inside one that still owes `owed` bytes
after the next, which lies between `low` and `high`. -/
inductive Utf8State where
  | ready
  | inside (owed value low high : Nat)
deriving DecidableEq, Repr

/-- The first byte of a character. A lead byte narrows the range of the byte that follows
it, which rules out overlong forms, surrogates and values past the last character. -/
def Utf8State.start (b : Nat) : List Char × Utf8State :=
  if b < 0x80 then ([Char.ofNat b], .ready)
  else if b < 0xC2 then ([replacement], .ready)
  else if b < 0xE0 then ([], .inside 0 (b - 0xC0) 0x80 0xBF)
  else if b = 0xE0 then ([], .inside 1 0 0xA0 0xBF)
  else if b = 0xED then ([], .inside 1 0xD 0x80 0x9F)
  else if b < 0xF0 then ([], .inside 1 (b - 0xE0) 0x80 0xBF)
  else if b = 0xF0 then ([], .inside 2 0 0x90 0xBF)
  else if b < 0xF4 then ([], .inside 2 (b - 0xF0) 0x80 0xBF)
  else if b = 0xF4 then ([], .inside 2 4 0x80 0x8F)
  else ([replacement], .ready)

/-- One byte: the characters it completes and the state it leaves. -/
def Utf8State.step : Utf8State → Nat → List Char × Utf8State
  | .ready, b => start b
  | .inside owed value low high, b =>
    if low ≤ b ∧ b ≤ high then
      let value := value * 64 + (b - 0x80)
      match owed with
      | 0 => ([Char.ofNat value], .ready)
      | owed + 1 => ([], .inside owed value 0x80 0xBF)
    else
      let (cs, next) := start b
      (replacement :: cs, next)

/-- A character that the end of the input cuts short. -/
def Utf8State.finish : Utf8State → List Char
  | .ready => []
  | .inside .. => [replacement]

def decodeUtf8From : Utf8State → List UInt8 → List Char
  | s, [] => s.finish
  | s, b :: bs => (s.step b.toNat).1 ++ decodeUtf8From (s.step b.toNat).2 bs

def decodeUtf8 (bytes : List UInt8) : List Char :=
  decodeUtf8From .ready bytes

def encodeUtf8 (cs : List Char) : List UInt8 :=
  cs.flatMap String.utf8EncodeChar

/-! ## Reading what was written -/

theorem decodeUtf8From_cons (s : Utf8State) {n : Nat} (h : n < 256) (bs : List UInt8) :
    decodeUtf8From s (UInt8.ofNat n :: bs) = (s.step n).1 ++ decodeUtf8From (s.step n).2 bs := by
  simp [decodeUtf8From, Nat.mod_eq_of_lt h]

theorem Utf8State.step_last {value low high b : Nat} (h : low ≤ b ∧ b ≤ high) :
    step (.inside 0 value low high) b = ([Char.ofNat (value * 64 + (b - 0x80))], .ready) := by
  simp [step, h]

theorem Utf8State.step_more {owed value low high b : Nat} (h : low ≤ b ∧ b ≤ high) :
    step (.inside (owed + 1) value low high) b =
      ([], .inside owed (value * 64 + (b - 0x80)) 0x80 0xBF) := by
  simp [step, h]

theorem Utf8State.start_two {v : Nat} (h : 0x80 ≤ v ∧ v < 0x800) :
    start (v / 64 + 0xC0) = ([], .inside 0 (v / 64) 0x80 0xBF) := by
  unfold start
  repeat' split
  all_goals first | omega | simp

/-- The range that a lead byte leaves for the second byte of a character holds it, the
surrogates being no characters. -/
theorem Utf8State.start_three {v : Nat} (h : 0x800 ≤ v ∧ v < 0x10000)
    (hs : v < 0xD800 ∨ 0xDFFF < v) :
    ∃ low high, start (v / 4096 + 0xE0) = ([], .inside 1 (v / 4096) low high) ∧
      low ≤ v / 64 % 64 + 0x80 ∧ v / 64 % 64 + 0x80 ≤ high := by
  by_cases h0 : v / 4096 = 0
  · exact ⟨0xA0, 0xBF, by rw [h0]; rfl, by omega, by omega⟩
  by_cases hD : v / 4096 = 0xD
  · exact ⟨0x80, 0x9F, by rw [hD]; rfl, by omega, by omega⟩
  · refine ⟨0x80, 0xBF, ?_, by omega, by omega⟩
    unfold start
    repeat' split
    all_goals first | omega | simp

theorem Utf8State.start_four {v : Nat} (h : 0x10000 ≤ v ∧ v < 0x110000) :
    ∃ low high, start (v / 262144 + 0xF0) = ([], .inside 2 (v / 262144) low high) ∧
      low ≤ v / 4096 % 64 + 0x80 ∧ v / 4096 % 64 + 0x80 ≤ high := by
  by_cases h0 : v / 262144 = 0
  · exact ⟨0x90, 0xBF, by rw [h0]; rfl, by omega, by omega⟩
  by_cases h4 : v / 262144 = 4
  · exact ⟨0x80, 0x8F, by rw [h4]; rfl, by omega, by omega⟩
  · refine ⟨0x80, 0xBF, ?_, by omega, by omega⟩
    unfold start
    repeat' split
    all_goals first | omega | simp

theorem decodeUtf8From_encodeChar (c : Char) (bs : List UInt8) :
    decodeUtf8From .ready (String.utf8EncodeChar c ++ bs) = c :: decodeUtf8From .ready bs := by
  have hc : Char.ofNat c.val.toNat = c := Char.ofNat_toNat c
  have hv : c.val.toNat < 0xD800 ∨ 0xDFFF < c.val.toNat ∧ c.val.toNat < 0x110000 := c.valid
  simp only [String.utf8EncodeChar]
  generalize c.val.toNat = v at hv hc ⊢
  subst hc
  by_cases h1 : v ≤ 0x7F
  · simp only [h1, if_true, List.cons_append, List.nil_append]
    rw [decodeUtf8From_cons _ (by omega), Utf8State.step, Utf8State.start, if_pos (by omega)]
    rfl
  by_cases h2 : v ≤ 0x7FF
  · simp only [h1, h2, if_true, if_false, List.cons_append, List.nil_append]
    rw [Nat.mod_eq_of_lt (by omega), decodeUtf8From_cons _ (by omega), Utf8State.step,
      Utf8State.start_two (by omega), decodeUtf8From_cons _ (by omega),
      Utf8State.step_last (by omega)]
    rw [show v / 64 * 64 + (v % 64 + 0x80 - 0x80) = v by omega]
    simp only [List.nil_append, List.cons_append]
  by_cases h3 : v ≤ 0xFFFF
  · obtain ⟨low, high, hs, hl, hh⟩ := Utf8State.start_three (v := v) (by omega) (by omega)
    simp only [h1, h2, h3, if_true, if_false, List.cons_append, List.nil_append]
    rw [Nat.mod_eq_of_lt (show v / 4096 < 16 by omega), decodeUtf8From_cons _ (by omega),
      Utf8State.step, hs, decodeUtf8From_cons _ (by omega), Utf8State.step_more ⟨hl, hh⟩,
      decodeUtf8From_cons _ (by omega), Utf8State.step_last (by omega)]
    rw [show (v / 4096 * 64 + (v / 64 % 64 + 0x80 - 0x80)) * 64 +
      (v % 64 + 0x80 - 0x80) = v by omega]
    simp only [List.nil_append, List.cons_append]
  · obtain ⟨low, high, hs, hl, hh⟩ := Utf8State.start_four (v := v) (by omega)
    simp only [h1, h2, h3, if_false, List.cons_append, List.nil_append]
    rw [Nat.mod_eq_of_lt (show v / 262144 < 8 by omega), decodeUtf8From_cons _ (by omega),
      Utf8State.step, hs, decodeUtf8From_cons _ (by omega), Utf8State.step_more ⟨hl, hh⟩,
      decodeUtf8From_cons _ (by omega), Utf8State.step_more (by omega),
      decodeUtf8From_cons _ (by omega), Utf8State.step_last (by omega)]
    rw [show ((v / 262144 * 64 + (v / 4096 % 64 + 0x80 - 0x80)) * 64 +
      (v / 64 % 64 + 0x80 - 0x80)) * 64 + (v % 64 + 0x80 - 0x80) = v by omega]
    simp only [List.nil_append, List.cons_append]

theorem decodeUtf8_encodeUtf8_append (cs : List Char) (bs : List UInt8) :
    decodeUtf8 (encodeUtf8 cs ++ bs) = cs ++ decodeUtf8 bs := by
  induction cs with
  | nil => rfl
  | cons c cs ih =>
    simp only [decodeUtf8, encodeUtf8, List.flatMap_cons, List.append_assoc] at ih ⊢
    rw [decodeUtf8From_encodeChar, ih, List.cons_append]

theorem decodeUtf8_encodeUtf8 (cs : List Char) : decodeUtf8 (encodeUtf8 cs) = cs := by
  simpa [decodeUtf8, decodeUtf8From, Utf8State.finish] using decodeUtf8_encodeUtf8_append cs []

end FtpControl.Text
