import FtpControl.Proofs.Endpoint.Canonical
import FtpControl.Proofs.Endpoint.Grammar

/-!
# Endpoints and octets are one and the same

Six numbers stand for an endpoint exactly when each of them is an octet, and a host with a port is
one exactly when the host is a dotted address and the port has 16 bits. The main statement is that
the two forms lead back to each other, and that all else is refused.
-/

namespace FtpControl

/-! ## Dotted addresses -/

namespace IPv4

/-- One number of a dotted address: one to three digits without a leading zero, at most 255. -/
structure Group (cs : List Char) : Prop where
  ne_nil : cs ≠ []
  length_le : cs.length ≤ 3
  digits : ∀ c ∈ cs, '0' ≤ c ∧ c ≤ '9'
  noLeadingZero : cs.head? = some '0' → cs = ['0']
  value_le : Text.ofDigits (cs.map Text.asciiValue) ≤ 255

/-- Four numbers with points between them. -/
def Canonical (s : String) : Prop :=
  ∃ a b c d, (Group a ∧ Group b ∧ Group c ∧ Group d) ∧
    s.toList = a ++ '.' :: (b ++ '.' :: (c ++ '.' :: d))

variable {cs : List Char} {s : String} {ip : IPv4}

theorem group_numeral (o : Octet) : Group (Nat.toDigits 10 o.val) := by
  constructor
  · exact Nat.toDigits_ne_nil
  · exact length_numeral o
  · intro c hc
    simpa [Text.isAsciiDigit] using Text.isAsciiDigit_of_mem_toDigits hc
  · intro hhead
    by_cases ho : o.val = 0
    · rw [ho]
      rfl
    · exact absurd hhead (Text.head?_toDigits_ne_zero (by omega))
  · rw [Text.ofDigits_toDigits]
    omega

theorem Group.isAsciiDigit (h : Group cs) : ∀ c ∈ cs, Text.isAsciiDigit c = true := by
  intro c hc
  simpa [Text.isAsciiDigit] using h.digits c hc

/-- A group is the shortest numeral of its octet. -/
theorem Group.exists_octet (h : Group cs) : ∃ o : Octet, cs = Nat.toDigits 10 o.val := by
  have hvalue := h.value_le
  refine ⟨⟨Text.ofDigits (cs.map Text.asciiValue), by omega⟩, ?_⟩
  refine (Text.toDigits_ofDigits h.ne_nil h.isAsciiDigit fun hhead => ?_).symm
  rw [h.noLeadingZero hhead]
  rfl

theorem canonical_dotted (ip : IPv4) : Canonical ip.dotted := by
  refine ⟨_, _, _, _, ⟨group_numeral ip.a, group_numeral ip.b, group_numeral ip.c,
    group_numeral ip.d⟩, ?_⟩
  simp [toList_dotted, octets, Text.join]

/-- Dotted addresses are what addresses are written as. -/
theorem canonical_iff : Canonical s ↔ ∃ ip : IPv4, ip.dotted = s := by
  constructor
  · rintro ⟨a, b, c, d, ⟨ha, hb, hc, hd⟩, hs⟩
    obtain ⟨oa, rfl⟩ := ha.exists_octet
    obtain ⟨ob, rfl⟩ := hb.exists_octet
    obtain ⟨oc, rfl⟩ := hc.exists_octet
    obtain ⟨od, rfl⟩ := hd.exists_octet
    refine ⟨⟨oa, ob, oc, od⟩, String.toList_inj.1 ?_⟩
    rw [hs]
    simp [toList_dotted, octets, Text.join]
  · rintro ⟨ip, rfl⟩
    exact canonical_dotted ip

end IPv4

namespace Endpoint

variable {α : Type} {host : String} {port value : Int} {components : List Int} {f : Fault}

/-! ## Hosts with ports -/

theorem ofAddress_eq_ok_iff {e : Endpoint} :
    ofAddress host port = .ok e ↔ e.address = ⟨host, port⟩ := by
  constructor
  · exact address_of_ofAddress
  · intro h
    obtain ⟨rfl, rfl⟩ := Address.mk.inj h
    exact ofAddress_dotted e

theorem exists_address_iff :
    (∃ e : Endpoint, e.address = ⟨host, port⟩) ↔
      IPv4.Canonical host ∧ 0 ≤ port ∧ port ≤ 65535 := by
  constructor
  · rintro ⟨e, he⟩
    obtain ⟨rfl, rfl⟩ := Address.mk.inj he
    exact ⟨IPv4.canonical_dotted e.host, by omega, by omega⟩
  · rintro ⟨hhost, hlow, hhigh⟩
    obtain ⟨ip, rfl⟩ := IPv4.canonical_iff.1 hhost
    refine ⟨⟨ip, ⟨port.toNat, by omega⟩⟩, ?_⟩
    rw [address, Address.mk.injEq]
    exact ⟨rfl, Int.toNat_of_nonneg hlow⟩

theorem kind_of_ofAddress_error (h : ofAddress host port = .error f) : f.kind = .protocol := by
  unfold ofAddress at h
  split at h
  · cases h
    rfl
  · split_ifs at h
    cases h
    rfl

/-! ## Six numbers -/

theorem exists_octets_iff :
    (∃ e : Endpoint, components = e.octets.map fun o => (o.val : Int)) ↔
      components.length = 6 ∧ ∀ value ∈ components, 0 ≤ value ∧ value ≤ 255 := by
  constructor
  · rintro ⟨e, rfl⟩
    refine ⟨rfl, fun value hvalue => ?_⟩
    obtain ⟨o, -, rfl⟩ := List.mem_map.1 hvalue
    omega
  · rintro ⟨hlength, hrange⟩
    have known : ∀ value ∈ components, ∃ o : Octet, (o.val : Int) = value := fun value hvalue =>
      have h := hrange value hvalue
      ⟨⟨value.toNat, by omega⟩, Int.toNat_of_nonneg h.1⟩
    match components, hlength with
    | [a, b, c, d, high, low], _ =>
      simp only [List.forall_mem_cons] at known
      obtain ⟨⟨a, rfl⟩, ⟨b, rfl⟩, ⟨c, rfl⟩, ⟨d, rfl⟩, ⟨high, rfl⟩, ⟨low, rfl⟩, -⟩ := known
      exact ⟨⟨⟨a, b, c, d⟩, portOf high low⟩, by simp [octets, IPv4.octets]⟩

/-- One more number is read first. -/
theorem kind_of_octet_bind {k : Octet → Except Fault α} (h : octet value >>= k = .error f)
    (hk : ∀ o, k o = .error f → f.kind = .protocol) : f.kind = .protocol := by
  unfold octet at h
  split_ifs at h
  · exact hk _ h
  · cases h
    rfl

theorem kind_of_ofComponents_error (h : ofComponents components = .error f) :
    f.kind = .protocol := by
  unfold ofComponents at h
  split at h
  · apply kind_of_octet_bind h
    intro a h
    apply kind_of_octet_bind h
    intro b h
    apply kind_of_octet_bind h
    intro c h
    apply kind_of_octet_bind h
    intro d h
    apply kind_of_octet_bind h
    intro high h
    apply kind_of_octet_bind h
    intro low h
    cases h
  · cases h
    rfl

/-! ## Both ways -/

/-- Hosts with ports and lists of six octets are two forms of the same endpoints. Each form is taken
exactly where it is one, then leads to the other and back, and is otherwise refused as a fault of
the protocol. -/
theorem address_octets_inverse (host : String) (port : Int) (components : List Int) :
    (((∃ e, ofAddress host port = .ok e) ↔
        IPv4.Canonical host ∧ 0 ≤ port ∧ port ≤ 65535) ∧
      (∀ e, ofAddress host port = .ok e →
        ofComponents (e.octets.map fun o => (o.val : Int)) = .ok e ∧ e.address = ⟨host, port⟩) ∧
      ∀ f, ofAddress host port = .error f → f.kind = .protocol) ∧
    ((∃ e, ofComponents components = .ok e) ↔
        components.length = 6 ∧ ∀ value ∈ components, 0 ≤ value ∧ value ≤ 255) ∧
      (∀ e, ofComponents components = .ok e →
        ofAddress e.address.host e.address.port = .ok e ∧
          (e.octets.map fun o => (o.val : Int)) = components) ∧
      ∀ f, ofComponents components = .error f → f.kind = .protocol := by
  refine ⟨⟨?_, ?_, fun f => kind_of_ofAddress_error⟩, ?_, ?_, fun f => kind_of_ofComponents_error⟩
  · simp only [ofAddress_eq_ok_iff]
    exact exists_address_iff
  · intro e he
    exact ⟨ofComponents_octets e, ofAddress_eq_ok_iff.1 he⟩
  · simp only [ofComponents_eq_ok_iff]
    exact exists_octets_iff
  · intro e he
    exact ⟨ofAddress_eq_ok_iff.2 rfl, (ofComponents_eq_ok_iff.1 he).symm⟩

/-- A leading zero is not let pass. -/
example : ofAddress "192.168.01.1" 21 = .error (.notIPv4 "192.168.01.1") := by
  decide +kernel

end Endpoint

end FtpControl
