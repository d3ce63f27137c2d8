import FtpControl.Effect
import FtpControl.Network.State

/-!
# Calls to the network

Each call notes itself in the journal and then succeeds or fails as its script says. A call
that is noted only when it succeeds says so.
-/

namespace FtpControl

abbrev Net (α : Type) := Effect Failure Network α

namespace Net

open Effect

def record (e : Event) : Net Unit :=
  update fun net => { net with events := net.events ++ [e] }

/-- Adds a record to the log, unless it lies below the threshold. -/
def log (source : LogSource) (level : LogLevel) (message : String) : Net Unit :=
  update fun net =>
    if net.threshold.rank ≤ level.rank then
      { net with logs := net.logs ++ [⟨source, level, message⟩] }
    else net

def setThreshold (level : LogLevel) : Net Unit :=
  update fun net => { net with threshold := level }

/-- Reads the clock, which then advances by a second. -/
def now : Net Nat := do
  let net ← state
  update fun net => { net with ticks := net.ticks + 1 }
  return net.ticks

/-- An error of the operating system, if there is one. -/
def refuse : Option String → Net Unit
  | none => pure ()
  | some why => fail (.system why)

def setSocket (handle : Handle) (s : Socket) : Net Unit :=
  update fun net => { net with sockets := setAt net.sockets handle s }

/-- Hands out a new socket or stream. -/
def handOut (handle : Handle) (s : Socket) : Net Unit := do
  update fun net => { net with opened := net.opened ++ [handle] }
  setSocket handle s

/-- The socket of a handle that is open. -/
def openSocket (handle : Handle) : Net Socket := do
  let net ← state
  let s := net.sockets handle
  if s.isOpen then return s else fail (.system badDescriptor)

/-- A limit that no socket takes is refused before anything else is looked at. -/
def checkLimit (limit : Timeout) : Net Unit :=
  if limit.isNegative then fail (.value .timeoutOutOfRange) else pure ()

/-- The plan of the next control connection; without one the connection is refused. -/
def nextControl : Net (Nat × ControlPlan) := do
  let net ← state
  let plan := net.script.controls.headD { socket := { failure := some connectionRefused } }
  update fun net =>
    { net with
      script := { net.script with controls := net.script.controls.tail }
      counts := { net.counts with control := net.counts.control + 1 } }
  return (net.counts.control, plan)

/-- Connects to a server and yields the number of the connection. -/
def dialControl (peer : Target) (limit : Timeout) : Net Nat := do
  let (n, plan) ← nextControl
  record (.connect (.control n) peer limit)
  checkLimit limit
  refuse plan.socket.failure
  handOut (.control n)
    (.ofPlan plan.socket (.ok ⟨"10.0.0.2", 50000 + n⟩) (.ok peer.address) limit)
  update fun net => { net with lines := setAt net.lines n (.ofPlan plan) }
  return n

/-- Opens the reading side of a control connection as a stream. -/
def openReader (n : Nat) : Net Unit := do
  let net ← state
  refuse (net.lines n).readerError
  handOut (.reader n) { isOpen := true, closeError := (net.lines n).readerCloseError }

/-- Opens the writing side of a control connection as a stream. -/
def openWriter (n : Nat) : Net Unit := do
  let net ← state
  refuse (net.lines n).writerError
  handOut (.writer n) { isOpen := true, closeError := (net.lines n).writerCloseError }

/-- The server's answer to the next command. It has none once its stream has ended. -/
def nextExchange (n : Nat) : Net Exchange := do
  let net ← state
  let line := net.lines n
  if line.source.ending = .silent then
    update fun net =>
      { net with lines := setAt net.lines n { line with exchanges := line.exchanges.tail } }
    return line.exchanges.headD {}
  else return {}

/-- Sends bytes to the server and receives what it answers. The call is noted only when it
succeeds. -/
def transmit (n : Nat) (bytes : List UInt8) : Net Unit := do
  let answer ← nextExchange n
  refuse answer.failure
  record (.send (.writer n) bytes)
  update fun net =>
    let line := net.lines n
    { net with
      lines := setAt net.lines n
        { line with
          source :=
            { line.source with
              bytes := line.source.bytes ++ answer.bytes
              ending := answer.ending.getD line.source.ending } } }

/-- What a control connection has received and not yet read. -/
def source (n : Nat) : Net Source := do
  return ((← state).lines n).source

def setSource (n : Nat) (src : Source) : Net Unit :=
  update fun net => { net with lines := setAt net.lines n { net.lines n with source := src } }

/-- Connects a data socket. -/
def dialData (peer : Address) (limit : Timeout) : Net Handle := do
  let net ← state
  let n := net.counts.data
  let plan := net.script.datas.headD { failure := some connectionRefused }
  update fun net =>
    { net with
      script := { net.script with datas := net.script.datas.tail }
      counts := { net.counts with data := n + 1 } }
  record (.connect (.data n) peer.target limit)
  checkLimit limit
  refuse plan.failure
  handOut (.data n) (.ofPlan plan (.ok ⟨"10.0.0.2", 60000 + n⟩) (.ok peer) limit)
  return .data n

/-- Creates a socket to listen on and yields its number. -/
def openListener : Net Nat := do
  let net ← state
  let n := net.counts.listener
  let plan := net.script.listeners.headD {}
  update fun net =>
    { net with
      script := { net.script with listeners := net.script.listeners.tail }
      counts := { net.counts with listener := n + 1 }
      listeners := setAt net.listeners n plan }
  handOut (.listener n)
    (.ofPlan plan.socket (.error badDescriptor) (.error badDescriptor) .unlimited)
  return n

/-- Ties a listener to a host and to a port that the system chooses. -/
def bind (n : Nat) (host : String) : Net Unit := do
  record (.bind (.listener n) ⟨host, 0⟩)
  let net ← state
  let plan := net.listeners n
  refuse plan.bindError
  let own : Address := ⟨host, plan.port.getD (40000 + n)⟩
  setSocket (.listener n)
    { net.sockets (.listener n) with ownAddress := plan.socket.ownAddress.getD (.ok own) }

def listen (n : Nat) (backlog : Nat) : Net Unit := do
  record (.listen (.listener n) backlog)
  refuse ((← state).listeners n).listenError

/-- Waits for a connection; yields its socket and its peer. On a closed listener the call is
not noted. -/
def accept (n : Nat) : Net (Handle × Address) := do
  let s ← openSocket (.listener n)
  record (.accept (.listener n))
  let net ← state
  match (net.listeners n).incoming with
  | none => fail (.system timedOut)
  | some (.error why) => fail (.system why)
  | some (.ok plan) =>
    let k := net.counts.accepted
    update fun net => { net with counts := { net.counts with accepted := k + 1 } }
    handOut (.accepted k) (.ofPlan plan.socket s.ownAddress (.ok plan.peer) .unlimited)
    return (.accepted k, plan.peer)

/-- Sets the time limit of a socket. The socket has it before the system is asked, and so even if
the call then fails. The call is noted only when it succeeds. -/
def setTimeout (handle : Handle) (limit : Timeout) : Net Unit := do
  checkLimit limit
  let net ← state
  setSocket handle { net.sockets handle with timeout := limit }
  let s ← openSocket handle
  setSocket handle { s with timeoutErrors := s.timeoutErrors.tail }
  refuse (s.timeoutErrors.headD none)
  record (.setTimeout handle limit)

def ownAddress (handle : Handle) : Net Address := do
  match (← openSocket handle).ownAddress with
  | .ok a => return a
  | .error why => fail (.system why)

def peerAddress (handle : Handle) : Net Address := do
  match (← openSocket handle).peerAddress with
  | .ok a => return a
  | .error why => fail (.system why)

/-- Ends a connection in both directions. On a closed socket the call is not noted. -/
def shutdown (handle : Handle) : Net Unit := do
  let s ← openSocket handle
  record (.shutdown handle)
  refuse s.shutdownError

/-- Closes a socket or stream. It is closed even if the call fails. -/
def close (handle : Handle) : Net Unit := do
  record (.close handle)
  let net ← state
  let s := net.sockets handle
  setSocket handle { s with isOpen := false }
  refuse s.closeError

/-- The name of a host. -/
def lookUp (host : String) : Net String := do
  record (.lookUp host)
  match (← state).script.hostname with
  | some name => return name
  | none => fail (.system "[Errno 1] Unknown host")

end Net

end FtpControl
