import FtpControl.Command
import FtpControl.Live
import FtpControl.Reply.Reader

/-!
# The control channel

A channel connects to a server once, accepts its greeting, and exchanges commands and
replies until it is closed. A failure of the transport closes it; a malformed or unwelcome
reply does not. Whatever it opened it closes, and an error met while closing never hides the
error that made it close.
-/

namespace FtpControl

/-- The socket, its two streams and the reply reader are held by the number of the control
connection that they belong to. -/
structure Channel where
  state : ChannelState := .unconnected
  /-- Whether received lines are logged. -/
  tracing : Bool := false
  banner : Option Reply := none
  socket : Option Nat := none
  reader : Option Nat := none
  writer : Option Nat := none
  replies : Option Nat := none
  timeoutMillis : Int := 10000
  peer : Option Target := none
deriving DecidableEq, Repr

namespace Channel

open Effect Live

def defaultPort : Int := 21

def defaultTimeoutMillis : Int := 10000

def log (level : LogLevel) (message : String) : Op Channel Unit :=
  call (Net.log .channel level message)

def fault {α : Type} (f : Fault) : Op Channel α :=
  fail (.fault f)

/-- The reply, if its code is one of those expected. -/
def validate (expected : List String) (reply : Reply) : Except Failure Reply :=
  if reply.code.toString ∈ expected then .ok reply else .error (.fault (.refused reply))

def requireConnected (action : String) : Op Channel Unit := do
  let c ← this
  if c.state = .connected then pure () else fault (.notConnected action c.state)

/-! ## Closing -/

/-- What the channel holds, in the order in which it is closed. -/
def resources (c : Channel) : List Handle :=
  (c.writer.map Handle.writer).toList ++ (c.reader.map Handle.reader).toList ++
    (c.socket.map Handle.control).toList

/-- Closes one resource and yields the error met, if any. -/
def closeResource (handle : Handle) : Net (Option String) := do
  match ← attempt (Net.close handle) with
  | .ok () => return none
  | .error (.system why) =>
    Net.log .channel .error s!"Error closing control resource <{handle.label}>"
    return some why
  | .error e => fail e

/-- Closes all resources, also behind one that fails, and yields the last error met. -/
def closeResources : List Handle → Net (Option String)
  | [] => pure none
  | handle :: rest => do
    let first ← closeResource handle
    let later ← closeResources rest
    return later.or first

def release : Op Channel Unit := do
  let c ← this
  let error ← call (closeResources c.resources)
  change fun c =>
    { c with writer := none, reader := none, socket := none, replies := none, state := .closed }
  match c.peer with
  | some peer => log .info s!"✓ Disconnected from {peer.text}"
  | none => pure ()
  match error with
  | some why => fault (.releaseFailed why)
  | none => pure ()

/-- Releases the channel while another error is on its way. -/
def releaseQuietly : Op Channel Unit :=
  release.rescue fun
    | .fault f => log .error s!"Error releasing control connection: {f.message}"
    | e => fail e

/-- Closing a closed channel does nothing. -/
def close : Op Channel Unit := do
  match (← this).state with
  | .closed => pure ()
  | .unconnected => fault .neverConnected
  | .connected => release

/-! ## Socket settings -/

def applyTimeout (n : Nat) (millis : Int) : Op Channel Unit := do
  if millis < 0 then fail (.value (.negativeTimeout millis))
  let limit ← ofExcept (Timeout.ofMillis millis)
  call (Net.setTimeout (.control n) limit)
  change fun c => { c with timeoutMillis := millis }

def setTimeout (millis : Int) : Op Channel Unit := do
  match (← this).socket with
  | none => fault .noSocket
  | some n => applyTimeout n millis

/-- The control socket of a connected channel. -/
def connectedSocket (action : String) : Op Channel Handle := do
  requireConnected action
  match (← this).socket with
  | some n => return .control n
  | none => fault .noSocket

/-- The host that the control socket is tied to. -/
def localHost : Op Channel String := do
  return (← call (Net.ownAddress (← connectedSocket "read the local address"))).host

def remoteAddress : Op Channel Address := do
  call (Net.peerAddress (← connectedSocket "read the remote address"))

/-- The name of the server, or its address when it has none. -/
def remoteHostName : Op Channel String := do
  let host := (← remoteAddress).host
  (call (Net.lookUp host)).rescue fun
    | .system _ => return host
    | e => fail e

/-! ## Commands and replies -/

def trace : List Line → Op Channel Unit
  | [] => pure ()
  | line :: rest => do
    call (Net.log .reply .debug (Reply.received line))
    trace rest

/-- Reads a reply from the reply reader that the channel holds. -/
def receive : Op Channel Reply := do
  let c ← this
  match c.replies with
  | none => fault .noSocket
  | some n =>
    let reading := Reply.read .utf8 (← call (Net.source n))
    call (Net.setSource n reading.rest)
    if c.tracing then trace reading.lines
    match reading.outcome with
    | .ok reply => return reply
    | .error f => fault f

/-- A further reply. Behind a failed read the stream is of no use, so the channel is
released. -/
def readReply : Op Channel Reply := do
  requireConnected "read a reply"
  receive.rescue fun
    | .fault f => do
      if f.kind = .io then
        log .error s!"✗ Control connection lost: {f.message}"
        releaseQuietly
      fault f
    | e => fail e

/-- Writes a command to the server. -/
def transmit (command : String) : Op Channel Unit := do
  match (← this).writer with
  | none => fault .noSocket
  | some n =>
    (call (Net.transmit n (Command.bytes command))).rescue fun
      | .system why => do
        releaseQuietly
        fault (.sendFailed why)
      | e => fail e

/-- Sends a command and reads the reply to it, whatever its code. -/
def send (command : String) : Op Channel Reply := do
  requireConnected "send a command"
  let shown ← ofExcept (Command.masked command)
  log .debug s!"→ SEND: {shown}"
  transmit command
  readReply

/-- Takes leave of the server and closes the channel, also when the server objects. -/
def logout : Op Channel Unit := do
  requireConnected "logout"
  ensure
    (do
      let reply ← send "QUIT"
      let _ ← ofExcept (validate ["221", "200"] reply))
    close

/-! ## Connecting -/

/-- Opens the streams of a new connection and reads the greeting. -/
def greet (n : Nat) (timeoutMillis : Int) : Op Channel Reply := do
  applyTimeout n timeoutMillis
  call (Net.openReader n)
  change fun c => { c with reader := some n }
  call (Net.openWriter n)
  change fun c => { c with writer := some n, replies := some n }
  let reply ← receive
  ofExcept (validate ["220"] reply)

/-- Dials the server; a refusal closes the channel for good. -/
def dial (peer : Target) (timeoutMillis : Int) : Op Channel Nat := do
  let limit ← ofExcept (Timeout.ofMillis timeoutMillis)
  let n ← (call (Net.dialControl peer limit)).rescue fun
    | .system why => do
      change fun c => { c with state := .closed }
      log .error s!"✗ Failed to connect to {peer.text} - {why}"
      fault (.connectFailed peer why)
    | e => fail e
  change fun c => { c with socket := some n, peer := some peer }
  return n

/-- Connects and yields the greeting, which must be a 220. The greeting is always traced. -/
def connect (peer : Target) (timeoutMillis : Int) : Op Channel Reply := do
  let c ← this
  if c.state ≠ .unconnected then fault (.connectIn c.state)
  change fun c => { c with tracing := true }
  log .info s!"Connecting to {peer.text} (timeout={timeoutMillis}ms)"
  let n ← dial peer timeoutMillis
  let reply ← (greet n timeoutMillis).rescue fun e => do
    log .error s!"✗ Greeting from {peer.text} rejected, closing control socket"
    change fun c => { c with tracing := false }
    releaseQuietly
    fail e
  change fun c => { c with banner := some reply, state := .connected, tracing := false }
  log .info s!"✓ Connected to {peer.text}"
  return reply

/-- Does something with the channel and leaves it closed, unless it is not connected. -/
def closing {α : Type} (m : Op Channel α) : Op Channel α :=
  m.ensure do
    if (← this).state = .connected then close

def text (c : Channel) : String :=
  let peer := (c.peer.map Target.text).getD "-"
  s!"ControlChannel(peer={peer}, state={c.state.name})"

end Channel

end FtpControl
