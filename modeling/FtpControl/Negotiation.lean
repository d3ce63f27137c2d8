import FtpControl.DataConnection
import FtpControl.Endpoint.Passive

/-!
# Negotiating data connections

In active mode the client listens before it tells the server where; in passive mode it asks
the server where to connect. A negotiation that fails leaves no socket open behind it.
-/

namespace FtpControl.Negotiation

open Effect Live

def log (source : LogSource) (level : LogLevel) (message : String) : Op Channel Unit :=
  call (Net.log source level message)

/-- Puts a listener on a host and announces it to the server. -/
def announce (n : Nat) (host : String) : Op Channel DataConnection := do
  call (Net.bind n host)
  call (Net.listen n 1)
  let port := (← call (Net.ownAddress (.listener n))).port
  log .dataConnection .info s!"[DATA] Listening on {host}:{port} for active transfer"
  let command ← match Endpoint.ofAddress host port with
    | .ok e => pure e.portCommand
    | .error f => fail (.fault f)
  let reply ← ofExcept (Channel.validate ["200"] (← Channel.send command))
  return {
    mode := .active, command, reply
    timeoutMillis := (← this).timeoutMillis, listener := some n }

def active : Op Channel DataConnection := do
  let host ← Channel.localHost
  let n ← call Net.openListener
  (announce n host).rescue fun e => do
    call (Net.close (.listener n))
    match e with
    | .system why => fail (.fault (.listenFailed why))
    | e => fail e

/-- Where the server says that it listens. -/
def passiveEndpoint (reply : Reply) : Op Channel Endpoint := do
  match Endpoint.ofPassive reply.text with
  | .ok e =>
    log .endpoint .debug s!"PASV parsed: {e.text}"
    return e
  | .error f => fail (.fault f)

def passive : Op Channel DataConnection := do
  let command := DataMode.passive.verb
  let reply ← ofExcept (Channel.validate ["227"] (← Channel.send command))
  let peer ← passiveEndpoint reply
  let timeoutMillis := (← this).timeoutMillis
  let limit ← ofExcept (Timeout.ofMillis timeoutMillis)
  let handle ← (call (Net.dialData peer.address limit)).rescue fun
    | .system why => fail (.fault (.dataConnectFailed peer why))
    | e => fail e
  log .dataConnection .info s!"[DATA] Connected to {peer.text}"
  return { mode := .passive, command, reply, timeoutMillis, socket := some handle }

/-- Obtains a data connection over a channel. -/
def run (mode : DataMode) : Op Channel DataConnection :=
  match mode with
  | .active => active
  | .passive => passive

end FtpControl.Negotiation
