import FtpControl.Text.Fields
import FtpControl.Text.Digit

/-!
# Endpoints

An IPv4 address and a port, and the six octets that stand for them on the control
connection: four for the host, then the high and the low octet of the port.
-/

namespace FtpControl

/-- A host as a network name or address, and a port; neither is checked. -/
structure Address where
  host : String
  port : Int
deriving DecidableEq, Repr

/-- The text `host:port`. -/
def Address.text (a : Address) : String :=
  s!"{a.host}:{a.port}"

/-- Where a control connection is to lead. The host may have been withheld, and then shows as
an empty list. -/
structure Target where
  host : Option String
  port : Int
deriving DecidableEq, Repr

namespace Target

def address (t : Target) : Address :=
  ⟨t.host.getD "[]", t.port⟩

def text (t : Target) : String :=
  t.address.text

@[simp] theorem address_some (host : String) (port : Int) :
    address ⟨some host, port⟩ = ⟨host, port⟩ := rfl

end Target

def Address.target (a : Address) : Target :=
  ⟨some a.host, a.port⟩

@[simp] theorem Address.address_target (a : Address) : a.target.address = a := rfl

abbrev Octet := Fin 256

structure IPv4 where
  a : Octet
  b : Octet
  c : Octet
  d : Octet
deriving DecidableEq, Repr

namespace IPv4

def octets (ip : IPv4) : List Octet :=
  [ip.a, ip.b, ip.c, ip.d]

/-- The four numbers with points between them. -/
def dotted (ip : IPv4) : String :=
  ".".intercalate (ip.octets.map fun o => toString o.val)

/-- One number of a dotted address: one to three digits, no leading zero, at most 255. -/
def octet? (cs : List Char) : Option Octet :=
  if cs ≠ [] ∧ cs.length ≤ 3 ∧ cs.all Text.isAsciiDigit ∧ (cs.head? = some '0' → cs.length = 1) then
    let n := Text.ofDigits (cs.map Text.asciiValue)
    if h : n < 256 then some ⟨n, h⟩ else none
  else none

def ofString? (s : String) : Option IPv4 :=
  match (Text.fields '.' s.toList).map octet? with
  | [some a, some b, some c, some d] => some ⟨a, b, c, d⟩
  | _ => none

end IPv4

/-- A host and a port that a data connection can use. -/
structure Endpoint where
  host : IPv4
  port : Fin 65536
deriving DecidableEq, Repr

namespace Endpoint

def highOctet (p : Fin 65536) : Octet :=
  ⟨p.val / 256, by omega⟩

def lowOctet (p : Fin 65536) : Octet :=
  ⟨p.val % 256, by omega⟩

def portOf (high low : Octet) : Fin 65536 :=
  ⟨256 * high.val + low.val, by omega⟩

@[simp] theorem portOf_octets (p : Fin 65536) : portOf (highOctet p) (lowOctet p) = p := by
  ext
  simp only [portOf, highOctet, lowOctet]
  omega

@[simp] theorem highOctet_portOf (high low : Octet) : highOctet (portOf high low) = high := by
  ext
  simp only [portOf, highOctet]
  omega

@[simp] theorem lowOctet_portOf (high low : Octet) : lowOctet (portOf high low) = low := by
  ext
  simp only [portOf, lowOctet]
  omega

def octets (e : Endpoint) : List Octet :=
  e.host.octets ++ [highOctet e.port, lowOctet e.port]

def address (e : Endpoint) : Address :=
  ⟨e.host.dotted, e.port.val⟩

def text (e : Endpoint) : String :=
  e.address.text

end Endpoint

end FtpControl
