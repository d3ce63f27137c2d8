import FtpControl.Proofs.Endpoint.RoundTrip

/-!
# One spelling for each endpoint

The dotted form of an address admits no leading zeros, so an address has one spelling only. An
endpoint made from a host and a port is therefore written with the very host and port that were
given.
-/

namespace FtpControl

namespace Text

theorem digitChar_asciiValue {c : Char} (h : isAsciiDigit c = true) :
    Nat.digitChar (asciiValue c) = c := by
  have hlt := asciiValue_lt_ten h
  rw [isAsciiDigit_iff] at h
  apply Char.toNat_inj.1
  rw [Nat.toNat_digitChar_of_lt_ten hlt, asciiValue]
  omega

/-- A number that is not zero keeps its digits when further ones are written behind them. -/
theorem toDigits_foldl {cs : List Char} (h : ∀ c ∈ cs, isAsciiDigit c = true) {n : Nat}
    (hn : 0 < n) :
    Nat.toDigits 10 ((cs.map asciiValue).foldl (fun n d => 10 * n + d) n) =
      Nat.toDigits 10 n ++ cs := by
  induction cs generalizing n with
  | nil => simp
  | cons c cs ih =>
    have hc := h c List.mem_cons_self
    have hlt := asciiValue_lt_ten hc
    have hsnoc : Nat.toDigits 10 (10 * n + asciiValue c) = Nat.toDigits 10 n ++ [c] := by
      rw [← Nat.toDigits_append_toDigits (by decide) hn hlt, Nat.toDigits_of_lt_base hlt,
        digitChar_asciiValue hc]
    rw [List.map_cons, List.foldl_cons, ih (fun d hd => h d (List.mem_cons_of_mem c hd)) (by omega),
      hsnoc, List.append_assoc, List.singleton_append]

/-- A numeral without leading zeros is the shortest one of its number. -/
theorem toDigits_ofDigits {cs : List Char} (hne : cs ≠ [])
    (h : ∀ c ∈ cs, isAsciiDigit c = true) (hzero : cs.head? = some '0' → cs.length = 1) :
    Nat.toDigits 10 (ofDigits (cs.map asciiValue)) = cs := by
  cases cs with
  | nil => exact absurd rfl hne
  | cons c cs =>
    have hc := h c List.mem_cons_self
    have hlt := asciiValue_lt_ten hc
    have hfirst : ofDigits ((c :: cs).map asciiValue) =
        (cs.map asciiValue).foldl (fun n d => 10 * n + d) (asciiValue c) := by
      simp [ofDigits]
    rw [hfirst]
    by_cases hpos : 0 < asciiValue c
    · rw [toDigits_foldl (fun d hd => h d (List.mem_cons_of_mem c hd)) hpos,
        Nat.toDigits_of_lt_base hlt, digitChar_asciiValue hc, List.singleton_append]
    · have hchar := digitChar_asciiValue hc
      rw [Nat.eq_zero_of_not_pos hpos] at hchar
      have hnil : cs = [] := by
        have hlength := hzero (by rw [← hchar]; rfl)
        exact List.length_eq_zero_iff.1 (Nat.succ.inj hlength)
      rw [hnil, List.map_nil, List.foldl_nil, Nat.toDigits_of_lt_base hlt,
        digitChar_asciiValue hc]

end Text

namespace IPv4

theorem eq_toDigits_of_octet? {cs : List Char} {o : Octet} (h : octet? cs = some o) :
    cs = Nat.toDigits 10 o.val := by
  unfold octet? at h
  dsimp only at h
  split_ifs at h with hcs hlt
  obtain ⟨hne, -, hdigits, hzero⟩ := hcs
  cases h
  exact (Text.toDigits_ofDigits hne (List.all_eq_true.1 hdigits) hzero).symm

theorem dotted_of_ofString? {s : String} {ip : IPv4} (h : ofString? s = some ip) :
    ip.dotted = s := by
  unfold ofString? at h
  split at h
  · rename_i a b c d hfields
    cases h
    obtain ⟨fa, fb, fc, fd, hlist, ha, hb, hc, hd⟩ : ∃ fa fb fc fd,
        Text.fields '.' s.toList = [fa, fb, fc, fd] ∧ octet? fa = some a ∧ octet? fb = some b ∧
          octet? fc = some c ∧ octet? fd = some d := by
      simpa [List.map_eq_cons_iff] using hfields
    apply String.toList_inj.1
    rw [toList_dotted, ← Text.join_fields '.' s.toList, hlist, eq_toDigits_of_octet? ha,
      eq_toDigits_of_octet? hb, eq_toDigits_of_octet? hc, eq_toDigits_of_octet? hd]
    rfl
  · cases h

end IPv4

namespace Endpoint

theorem address_of_ofAddress {host : String} {port : Int} {e : Endpoint}
    (h : ofAddress host port = .ok e) : e.address = ⟨host, port⟩ := by
  unfold ofAddress at h
  split at h
  · cases h
  · rename_i ip hip
    split_ifs at h with hport
    cases h
    rw [address, IPv4.dotted_of_ofString? hip]
    congr
    exact Int.toNat_of_nonneg hport.1

end Endpoint

end FtpControl
