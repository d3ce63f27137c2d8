import FtpControl.Endpoint.Basic
import FtpControl.Source

/-!
# What the network will do

A script says in advance how the other side behaves: which connections come about, what
each of them sends, and which calls fail. Every connection and every listener takes the next
plan of its kind. A script together with what the client does determines a whole run.
-/

namespace FtpControl

/-- The behaviour of one socket. A failure is the operating system's account of it. -/
structure SocketPlan where
  /-- Why the connection does not come about. -/
  failure : Option String := none
  /-- The answer about the near end, when it is not the usual one. -/
  ownAddress : Option (Except String Address) := none
  /-- The answer about the far end, when it is not the usual one. -/
  peerAddress : Option (Except String Address) := none
  closeError : Option String := none
  shutdownError : Option String := none
  /-- What comes of each setting of a time limit in turn; all later ones succeed. -/
  timeoutErrors : List (Option String) := []

/-- What the server does about one command. -/
structure Exchange where
  bytes : List UInt8 := []
  /-- How the stream goes on behind these bytes, if that changes. -/
  ending : Option Ending := none
  /-- Why the command cannot be sent. -/
  failure : Option String := none

structure ControlPlan where
  socket : SocketPlan := {}
  banner : List UInt8 := []
  ending : Ending := .silent
  exchanges : List Exchange := []
  readerError : Option String := none
  writerError : Option String := none
  readerCloseError : Option String := none
  writerCloseError : Option String := none

/-- A connection that a listener will take. -/
structure IncomingPlan where
  socket : SocketPlan := {}
  peer : Address := ⟨"10.0.0.1", 20⟩

structure ListenerPlan where
  socket : SocketPlan := {}
  /-- The port that the listener is given, when it is not the usual one. -/
  port : Option Int := none
  bindError : Option String := none
  listenError : Option String := none
  /-- The connection that arrives, or the error instead; nothing arrives by itself. -/
  incoming : Option (Except String IncomingPlan) := none

structure Script where
  controls : List ControlPlan := []
  datas : List SocketPlan := []
  listeners : List ListenerPlan := []
  /-- The name of every host, if names can be found. -/
  hostname : Option String := none

end FtpControl
