import FtpControl.Endpoint.Passive
import Mathlib.Tactic

/-!
# Endpoints read back

An endpoint is written with the decimal numerals of its octets: with points between those of
the host, and with commas between all six in the argument of `PORT`. The main statement is
that a passive reply with such a tuple between its first parentheses announces the endpoint
that was written.
-/

namespace FtpControl

/-! ## Numerals -/

namespace Text

theorem isAsciiDigit_of_mem_toDigits {n : Nat} {c : Char} (h : c ∈ Nat.toDigits 10 n) :
    isAsciiDigit c = true := by
  have hdigit : c.isDigit = true := Nat.isDigit_of_mem_toDigits (by decide) le_rfl h
  simp only [Char.isDigit, Bool.and_eq_true, decide_eq_true_eq] at hdigit
  simp only [isAsciiDigit, Bool.and_eq_true, decide_eq_true_eq]
  exact hdigit

theorem not_mem_toDigits {c : Char} (h : isAsciiDigit c = false) (n : Nat) :
    c ∉ Nat.toDigits 10 n := by
  intro hc
  rw [isAsciiDigit_of_mem_toDigits hc] at h
  contradiction

theorem ofDigits_toDigits (n : Nat) : ofDigits ((Nat.toDigits 10 n).map asciiValue) = n := by
  rw [ofDigits, List.foldl_map]
  exact Nat.ofDigitChars_toDigits (by decide) le_rfl

/-- Only the numeral of zero begins with a zero. -/
theorem head?_toDigits_ne_zero {n : Nat} (h : 0 < n) :
    (Nat.toDigits 10 n).head? ≠ some '0' := by
  induction n using Nat.strong_induction_on with
  | _ n ih =>
    by_cases hn : n < 10
    · rw [Nat.toDigits_of_lt_base hn]
      interval_cases n <;> decide
    · rw [Nat.toDigits_of_base_le (by decide) (by omega),
        List.head?_append_of_ne_nil _ Nat.toDigits_ne_nil]
      exact ih (n / 10) (by omega) (by omega)

end Text

/-! ## Octets and dotted addresses -/

namespace IPv4

theorem length_numeral (o : Octet) : (Nat.toDigits 10 o.val).length ≤ 3 := by
  apply (Nat.length_toDigits_le_iff (by decide) (by decide)).2
  omega

theorem octet?_numeral (o : Octet) : octet? (Nat.toDigits 10 o.val) = some o := by
  have hzero : (Nat.toDigits 10 o.val).head? = some '0' → (Nat.toDigits 10 o.val).length = 1 := by
    intro hhead
    by_cases ho : o.val = 0
    · rw [ho]
      rfl
    · exact absurd hhead (Text.head?_toDigits_ne_zero (by omega))
  have hdigits : (Nat.toDigits 10 o.val).all Text.isAsciiDigit = true := by
    rw [List.all_eq_true]
    intro c hc
    exact Text.isAsciiDigit_of_mem_toDigits hc
  unfold octet?
  rw [if_pos ⟨Nat.toDigits_ne_nil, length_numeral o, hdigits, hzero⟩]
  simp [Text.ofDigits_toDigits]

theorem toList_dotted (ip : IPv4) :
    ip.dotted.toList = Text.join ['.'] (ip.octets.map fun o => Nat.toDigits 10 o.val) := by
  rw [dotted, String.toList_intercalate, Text.join_eq_intercalate, List.map_map]
  simp [Function.comp_def]

theorem ofString?_dotted (ip : IPv4) : ofString? ip.dotted = some ip := by
  have hfields : Text.fields '.' ip.dotted.toList =
      ip.octets.map fun o => Nat.toDigits 10 o.val := by
    rw [toList_dotted]
    apply Text.fields_join (by simp [octets])
    intro f hf
    obtain ⟨o, -, rfl⟩ := List.mem_map.1 hf
    exact Text.not_mem_toDigits (by decide) o.val
  unfold ofString?
  rw [hfields]
  simp [octets, octet?_numeral]

end IPv4

namespace Endpoint

theorem ofAddress_dotted (e : Endpoint) : ofAddress e.host.dotted e.port.val = .ok e := by
  have hport : (0 : Int) ≤ e.port.val ∧ (e.port.val : Int) < 65536 := by omega
  unfold ofAddress
  rw [IPv4.ofString?_dotted]
  simp

/-! ## Tuples -/

theorem octet_val (o : Octet) : octet o.val = .ok o := by
  have ho : (0 : Int) ≤ o.val ∧ (o.val : Int) < 256 := by omega
  simp [octet, ho]

theorem ofComponents_octets (e : Endpoint) :
    ofComponents (e.octets.map fun o => (o.val : Int)) = .ok e := by
  simp only [octets, IPv4.octets, List.map_cons, List.map_nil, List.cons_append,
    List.nil_append, ofComponents, octet_val]
  simp [bind, Except.bind, pure, Except.pure]

theorem component?_numeral (o : Octet) :
    component? (Nat.toDigits 10 o.val) = some (o.val : Int) := by
  have hlength : ¬ Text.maxDigits < (Nat.toDigits 10 o.val).length := by
    have := IPv4.length_numeral o
    simp only [Text.maxDigits]
    omega
  simp [component?, Nat.toDigits_ne_nil, hlength, Text.ofDigits_toDigits]

theorem scan_digits {cs : List Char} (h : ∀ c ∈ cs, Text.isAsciiDigit c = true)
    (digits rest : List Char) : scan digits (cs ++ rest) = scan (digits ++ cs) rest := by
  induction cs generalizing digits with
  | nil => simp
  | cons c cs ih =>
    rw [List.cons_append, scan, if_pos (h c List.mem_cons_self),
      ih fun d hd => h d (List.mem_cons_of_mem c hd), List.append_assoc, List.singleton_append]

/-- Octets with commas between them are the components of their tuple. -/
theorem scan_octets (os : List Octet) :
    scan [] (Text.join [','] (os.map fun o => Nat.toDigits 10 o.val)) =
      some (os.map fun o => (o.val : Int)) := by
  have numeral : ∀ (o : Octet) (rest : List Char),
      scan [] (Nat.toDigits 10 o.val ++ rest) = scan (Nat.toDigits 10 o.val) rest := by
    intro o rest
    exact scan_digits (fun c hc => Text.isAsciiDigit_of_mem_toDigits hc) [] rest
  induction os with
  | nil => rfl
  | cons o os ih =>
    cases os with
    | nil =>
      have hlast := numeral o []
      rw [List.append_nil] at hlast
      simp [Text.join, hlast, scan, Nat.toDigits_ne_nil, component?_numeral]
    | cons p os =>
      have hcomma : Text.isAsciiDigit ',' = false := by decide
      simp only [List.map_cons] at ih ⊢
      rw [Text.join, List.append_assoc, numeral, List.singleton_append, scan, ih]
      simp [hcomma, component?_numeral]

theorem toList_argument (e : Endpoint) :
    e.argument.toList = Text.join [','] (e.octets.map fun o => Nat.toDigits 10 o.val) := by
  rw [argument, String.toList_intercalate, Text.join_eq_intercalate, List.map_map]
  simp [Function.comp_def]

theorem close_not_mem_argument (e : Endpoint) : ')' ∉ e.argument.toList := by
  rw [toList_argument]
  apply Text.not_mem_join (by decide)
  intro f hf
  obtain ⟨o, -, rfl⟩ := List.mem_map.1 hf
  exact Text.not_mem_toDigits (by decide) o.val

/-! ## Passive replies -/

theorem tupleRegion?_parentheses {before inside : List Char} (hopen : '(' ∉ before)
    (hclose : ')' ∉ before) (hinside : ')' ∉ inside) (after : List Char) :
    tupleRegion? (before ++ '(' :: (inside ++ ')' :: after)) = some inside := by
  unfold tupleRegion?
  rw [if_neg (by simp)]
  exact Text.between?_append hopen hclose hinside after

theorem tupleRegion?_of_parentheses {before inside : String} (hopen : '(' ∉ before.toList)
    (hclose : ')' ∉ before.toList) (hinside : ')' ∉ inside.toList) (after : String) :
    tupleRegion? (before ++ "(" ++ inside ++ ")" ++ after).toList = some inside.toList := by
  have hleft : "(".toList = ['('] := rfl
  have hright : ")".toList = [')'] := rfl
  simp only [String.toList_append, hleft, hright, List.append_assoc, List.singleton_append]
  exact tupleRegion?_parentheses hopen hclose hinside after.toList

theorem ofPassive_argument (e : Endpoint) {before : String} (hopen : '(' ∉ before.toList)
    (hclose : ')' ∉ before.toList) (after : String) :
    ofPassive (before ++ "(" ++ e.argument ++ ")" ++ after) = .ok e := by
  have hscan : scan [] e.argument.toList = some (e.octets.map fun o => (o.val : Int)) := by
    rw [toList_argument]
    exact scan_octets e.octets
  unfold ofPassive
  rw [tupleRegion?_of_parentheses hopen hclose (close_not_mem_argument e), Option.bind_some, hscan]
  dsimp only
  rw [if_pos (by simp [octets, IPv4.octets])]
  exact ofComponents_octets e

/-- An address and a port that are written as a tuple, between the first parentheses of a
passive reply, are the ones that it announces. -/
theorem ofPassive_of_ofAddress (ip : IPv4) (port : Fin 65536) {before : String}
    (hopen : '(' ∉ before.toList) (hclose : ')' ∉ before.toList) (after : String) :
    ∃ e, ofAddress ip.dotted port.val = .ok e ∧
      ofPassive (before ++ "(" ++ e.argument ++ ")" ++ after) = .ok e ∧
        e.address = ⟨ip.dotted, port.val⟩ := by
  refine ⟨⟨ip, port⟩, ofAddress_dotted ⟨ip, port⟩, ?_, rfl⟩
  exact ofPassive_argument ⟨ip, port⟩ hopen hclose after

/-- Octets from 128 up, a port above 32767, and further parentheses behind the tuple. -/
theorem ofPassive_high_octets :
    '(' ∉ "Passive ".toList ∧ ')' ∉ "Passive ".toList ∧
      ∃ e, ofAddress (IPv4.dotted ⟨200, 129, 255, 128⟩) (65280 : Fin 65536).val = .ok e ∧
        ofPassive ("Passive " ++ "(" ++ e.argument ++ ")" ++ ") (1,2,3,4,5,6") = .ok e ∧
          e.address = ⟨IPv4.dotted ⟨200, 129, 255, 128⟩, (65280 : Fin 65536).val⟩ :=
  ⟨by decide, by decide,
    ofPassive_of_ofAddress ⟨200, 129, 255, 128⟩ 65280 (by decide) (by decide) _⟩

end Endpoint

end FtpControl
