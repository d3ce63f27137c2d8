import FtpControl.Channel

/-!
# Data connections

A data connection is obtained by a negotiation on the control channel. A passive one is
connected from the start; an active one is pending, with a listening socket, until the
server's connection has been accepted. Accepting closes the listener whatever comes of it.
-/

namespace FtpControl

structure DataConnection where
  mode : DataMode
  /-- The control command that negotiated the connection, and the reply to it. -/
  command : String
  reply : Reply
  timeoutMillis : Int
  /-- The number of the listening socket of a pending connection. -/
  listener : Option Nat := none
  socket : Option Handle := none
  closed : Bool := false
deriving DecidableEq, Repr

namespace DataConnection

open Effect Live

def log (level : LogLevel) (message : String) : Op DataConnection Unit :=
  call (Net.log .dataConnection level message)

def fault {α : Type} (f : Fault) : Op DataConnection α :=
  fail (.fault f)

def isPending (d : DataConnection) : Bool :=
  d.listener.isSome

/-- The socket for the transfer itself. -/
def dataSocket : Op DataConnection Handle := do
  let d ← this
  if d.closed then fault .dataClosed
  match d.socket with
  | none => fault .dataPending
  | some handle => return handle

/-- The near end of the listener of a pending connection, or else of the data socket. -/
def localAddress : Op DataConnection Address := do
  match (← this).listener with
  | some n => call (Net.ownAddress (.listener n))
  | none => call (Net.ownAddress (← dataSocket))

/-- Waits for a limited time on a listener, which is then closed. -/
def await (n : Nat) (waitMillis : Int) : Op DataConnection (Handle × Address) :=
  ensure
    (rescue
      (do
        let limit ← ofExcept (Timeout.ofMillis waitMillis)
        call (Net.setTimeout (.listener n) limit)
        call (Net.accept n))
      fun
        | .system why => do
          change fun d => { d with listener := none, closed := true }
          fault (.acceptFailed why)
        | e => fail e)
    (call (Net.close (.listener n)))

/-- Accepts the server's connection to a pending data connection. Without a limit of its own
the wait is limited like the control channel at the time of the negotiation, and so is the
data socket in any case. -/
def accept (waitMillis : Option Int) : Op DataConnection Handle := do
  let d ← this
  if d.closed then fault .dataClosed
  match d.listener with
  | none => fault (.nothingToAccept d.mode)
  | some n =>
    let (handle, peer) ← await n (waitMillis.getD d.timeoutMillis)
    change fun d => { d with listener := none }
    let limit ← ofExcept (Timeout.ofMillis d.timeoutMillis)
    call (Net.setTimeout handle limit)
    change fun d => { d with socket := some handle }
    log .info s!"[DATA] Accepted connection from {peer.text}"
    return handle

/-- Wakes whoever waits on the listener. -/
def shutdownListener (n : Nat) : Op DataConnection Unit :=
  (call (Net.shutdown (.listener n))).rescue fun
    | .system why => log .debug s!"[DATA] Listener shutdown: {why}"
    | e => fail e

/-- Closes one socket and yields the error met, if any. -/
def closeSocket (handle : Handle) : Op DataConnection (Option String) := do
  match ← attempt (call (Net.close handle)) with
  | .ok () => return none
  | .error (.system why) =>
    log .error "Error closing data socket"
    return some why
  | .error e => fail e

/-- Closes all sockets and yields the last error met. -/
def closeSockets : List Handle → Op DataConnection (Option String)
  | [] => pure none
  | handle :: rest => do
    let first ← closeSocket handle
    let later ← closeSockets rest
    return later.or first

/-- Closes the listener and the data socket. Closing a second time does nothing. -/
def close : Op DataConnection Unit := do
  let d ← this
  if d.closed then pure ()
  else
    change fun d => { d with closed := true }
    match d.listener with
    | some n => shutdownListener n
    | none => pure ()
    let error ← closeSockets ((d.listener.map Handle.listener).toList ++ d.socket.toList)
    change fun d => { d with listener := none, socket := none }
    log .debug s!"[DATA] {d.mode.name} data connection closed"
    match error with
    | some why => fault (.dataCloseFailed why)
    | none => pure ()

/-- Does something with the connection and leaves it closed. -/
def closing {α : Type} (m : Op DataConnection α) : Op DataConnection α :=
  m.ensure close

def status (d : DataConnection) : String :=
  if d.closed then "closed" else if d.isPending then "pending" else "connected"

def text (d : DataConnection) : String :=
  s!"DataConnection(mode={d.mode.name}, state={d.status})"

end DataConnection

end FtpControl
