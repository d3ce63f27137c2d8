import FtpControl.Log
import FtpControl.Network.Script
import FtpControl.Timeout

/-!
# The network as the client sees it

The sockets and streams handed out so far, the script for those to come, and the journal of
everything done: calls in their order, log records that reached the threshold, and the
number of times the clock was read.
-/

namespace FtpControl

/-- A socket or stream by kind and number. The reader and the writer of a control connection
bear its number. -/
inductive Handle where
  | control (n : Nat)
  | reader (n : Nat)
  | writer (n : Nat)
  | data (n : Nat)
  | listener (n : Nat)
  | accepted (n : Nat)
deriving DecidableEq, Repr

def Handle.label : Handle → String
  | control n => s!"control#{n}"
  | reader n => s!"reader#{n}"
  | writer n => s!"writer#{n}"
  | data n => s!"data#{n}"
  | listener n => s!"listener#{n}"
  | accepted n => s!"accepted#{n}"

inductive Event where
  | connect (handle : Handle) (peer : Target) (limit : Timeout)
  | setTimeout (handle : Handle) (limit : Timeout)
  | send (writer : Handle) (bytes : List UInt8)
  | close (handle : Handle)
  | bind (handle : Handle) (address : Address)
  | listen (handle : Handle) (backlog : Nat)
  | accept (handle : Handle)
  | shutdown (handle : Handle)
  | lookUp (host : String)
deriving DecidableEq, Repr

def badDescriptor : String := "[Errno 9] Bad file descriptor"

def connectionRefused : String := "[Errno 111] Connection refused"

/-- A socket or stream. One that was never opened counts as closed. -/
structure Socket where
  isOpen : Bool := false
  /-- The limit last asked for. -/
  timeout : Timeout := .unlimited
  ownAddress : Except String Address := .error badDescriptor
  peerAddress : Except String Address := .error badDescriptor
  closeError : Option String := none
  shutdownError : Option String := none
  timeoutErrors : List (Option String) := []

/-- The limit that the socket says it is under. -/
def Socket.limit? (s : Socket) : Option Timeout :=
  s.timeout.kept?

/-- An open socket with its usual addresses, which the plan may override. -/
def Socket.ofPlan (plan : SocketPlan) (own peer : Except String Address) (limit : Timeout) :
    Socket where
  isOpen := true
  timeout := limit
  ownAddress := plan.ownAddress.getD own
  peerAddress := plan.peerAddress.getD peer
  closeError := plan.closeError
  shutdownError := plan.shutdownError
  timeoutErrors := plan.timeoutErrors

/-- A control connection behind its socket: what has come in and what the server will do. -/
structure ControlLine where
  source : Source := ⟨[], .silent, none⟩
  exchanges : List Exchange := []
  readerError : Option String := none
  writerError : Option String := none
  readerCloseError : Option String := none
  writerCloseError : Option String := none

def ControlLine.ofPlan (plan : ControlPlan) : ControlLine where
  source := ⟨plan.banner, plan.ending, none⟩
  exchanges := plan.exchanges
  readerError := plan.readerError
  writerError := plan.writerError
  readerCloseError := plan.readerCloseError
  writerCloseError := plan.writerCloseError

/-- How many of each kind have been handed out or refused. -/
structure Counts where
  control : Nat := 0
  data : Nat := 0
  listener : Nat := 0
  accepted : Nat := 0
deriving DecidableEq, Repr

structure Network where
  script : Script := {}
  counts : Counts := {}
  /-- Every socket and stream handed out so far, in order. No call looks at it. -/
  opened : List Handle := []
  sockets : Handle → Socket := fun _ => {}
  lines : Nat → ControlLine := fun _ => {}
  listeners : Nat → ListenerPlan := fun _ => {}
  events : List Event := []
  logs : List LogRecord := []
  threshold : LogLevel := .warning
  ticks : Nat := 0

/-- The same network with nothing in its journal. -/
def Network.forgetJournal (net : Network) : Network :=
  { net with events := [], logs := [] }

/-- A table with one entry replaced. -/
def setAt {κ ν : Type} [DecidableEq κ] (table : κ → ν) (key : κ) (entry : ν) : κ → ν :=
  fun k => if k = key then entry else table k

@[simp] theorem setAt_same {κ ν : Type} [DecidableEq κ] (table : κ → ν) (key : κ) (entry : ν) :
    setAt table key entry key = entry := by
  simp [setAt]

theorem setAt_of_ne {κ ν : Type} [DecidableEq κ] {table : κ → ν} {key k : κ} {entry : ν}
    (h : k ≠ key) : setAt table key entry k = table k := by
  simp [setAt, h]

end FtpControl
