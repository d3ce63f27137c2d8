import FtpControl.Fault

/-!
# Endpoints as octets

The argument of `PORT` and the tuple of a passive reply write an endpoint as six decimal
octets between commas. Writing checks the host before the port; reading checks the number
of components before their values.
-/

namespace FtpControl.Endpoint

def ofAddress (host : String) (port : Int) : Except Fault Endpoint :=
  match IPv4.ofString? host with
  | none => .error (.notIPv4 host)
  | some ip =>
    if h : 0 ≤ port ∧ port < 65536 then .ok ⟨ip, ⟨port.toNat, by omega⟩⟩
    else .error (.portOutOfRange port)

def octet (value : Int) : Except Fault Octet :=
  if h : 0 ≤ value ∧ value < 256 then .ok ⟨value.toNat, by omega⟩
  else .error (.componentOutOfRange value)

/-- Six components make an endpoint; of several that are out of range the first is named. -/
def ofComponents (components : List Int) : Except Fault Endpoint :=
  match components with
  | [a, b, c, d, high, low] => do
    let ip : IPv4 := ⟨← octet a, ← octet b, ← octet c, ← octet d⟩
    return ⟨ip, portOf (← octet high) (← octet low)⟩
  | _ => .error (.componentCount components.length)

/-- The argument of `PORT`. -/
def argument (e : Endpoint) : String :=
  ",".intercalate (e.octets.map fun o => toString o.val)

/-- The command that announces a listening endpoint. -/
def portCommand (e : Endpoint) : String :=
  s!"PORT {e.argument}"

end FtpControl.Endpoint
