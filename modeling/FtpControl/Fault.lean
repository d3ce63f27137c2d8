import FtpControl.ChannelState
import FtpControl.DataMode
import FtpControl.Endpoint.Basic
import FtpControl.Reply.Basic
import FtpControl.Text.Quoted

/-!
# Faults of the control engine

What can go wrong while talking to a server, by cause. Every fault has a kind, a message
and, where a server's reply is to blame, the code and the text of that reply.
-/

namespace FtpControl

/-- Transport, malformed or refused reply, or an operation that the state does not allow. -/
inductive FaultKind where
  | io
  | protocol
  | illegalState
deriving DecidableEq, Repr

namespace FaultKind

def all : List FaultKind := [.io, .protocol, .illegalState]

def name : FaultKind → String
  | .io => "IO"
  | .protocol => "PROTOCOL"
  | .illegalState => "ILLEGAL_STATE"

def value : FaultKind → String
  | .io => "io"
  | .protocol => "protocol"
  | .illegalState => "illegal_state"

def ofValue? (s : String) : Option FaultKind :=
  all.find? fun kind => kind.value == s

end FaultKind

/-- Causes; a `why` is the operating system's account of a failed call. -/
inductive Fault where
  | readFailed (why : String)
  | emptyReply
  | truncatedReply (code : String)
  | connectFailed (peer : Target) (why : String)
  | sendFailed (why : String)
  | releaseFailed (why : String)
  | listenFailed (why : String)
  | dataConnectFailed (peer : Endpoint) (why : String)
  | acceptFailed (why : String)
  | dataCloseFailed (why : String)
  | invalidCode (code text : String)
  | malformedLine (line : String)
  | refused (reply : Reply)
  | notIPv4 (address : String)
  | portOutOfRange (port : Int)
  | componentCount (count : Nat)
  | componentOutOfRange (value : Int)
  | malformedPassive (text : String)
  | connectIn (state : ChannelState)
  | neverConnected
  | notConnected (action : String) (state : ChannelState)
  | noSocket
  | dataClosed
  | dataPending
  | nothingToAccept (mode : DataMode)
  | other (kind : FaultKind) (message : String) (code : Option Int) (text : Option String)
deriving DecidableEq, Repr

namespace Fault

def kind : Fault → FaultKind
  | readFailed .. | emptyReply | truncatedReply .. | connectFailed .. | sendFailed ..
  | releaseFailed .. | listenFailed .. | dataConnectFailed .. | acceptFailed ..
  | dataCloseFailed .. => .io
  | invalidCode .. | malformedLine .. | refused .. | notIPv4 .. | portOutOfRange ..
  | componentCount .. | componentOutOfRange .. | malformedPassive .. => .protocol
  | connectIn .. | neverConnected | notConnected .. | noSocket | dataClosed | dataPending
  | nothingToAccept .. => .illegalState
  | other kind .. => kind

def message : Fault → String
  | readFailed why => s!"Failed reading reply: {why}"
  | emptyReply => "Unexpected empty reply"
  | truncatedReply code => s!"Unexpected end of multi-line reply {code}"
  | connectFailed peer why => s!"Failed to connect to {peer.text} - {why}"
  | sendFailed why => s!"Failed to send command: {why}"
  | releaseFailed why => s!"Failed to release control connection: {why}"
  | listenFailed why => s!"Failed to open active data listener: {why}"
  | dataConnectFailed peer why => s!"Failed to connect data channel to {peer.text} - {why}"
  | acceptFailed why => s!"Failed to accept data connection: {why}"
  | dataCloseFailed why => s!"Failed to close data connection: {why}"
  | invalidCode code _ => s!"Invalid reply code: {Text.quoted code}"
  | malformedLine line => s!"Malformed reply line: {Text.quoted line}"
  | refused reply => reply.text
  | notIPv4 address => s!"Not an IPv4 address: {Text.quoted address}"
  | portOutOfRange port => s!"Port out of range: {port}"
  | componentCount count => s!"Expected 6 address components, got {count}"
  | componentOutOfRange value => s!"Address component out of range: {value}"
  | malformedPassive text => s!"Malformed PASV reply: {text}"
  | connectIn state => s!"Cannot connect a channel in state {state.name}"
  | neverConnected => "Cannot close a channel that was never connected"
  | notConnected action state => s!"Cannot {action}: channel is {state.name}"
  | noSocket => "Failed to set timeout - no control socket"
  | dataClosed => "Data connection is closed"
  | dataPending => "Data connection is pending: call accept() first"
  | nothingToAccept mode => s!"Nothing to accept on a {mode.name} data connection"
  | other _ message _ _ => message

/-- The code of the reply at fault. -/
def replyCode? : Fault → Option Int
  | refused reply => some reply.code.value
  | malformedPassive _ => some 227
  | other _ _ code _ => code
  | _ => none

/-- The text of the reply at fault. -/
def replyText? : Fault → Option String
  | invalidCode _ text => some text
  | malformedLine line => some line
  | refused reply => some reply.text
  | malformedPassive text => some text
  | other _ _ _ text => text
  | _ => none

/-- The code of the reply at fault as a number, -1 standing for none. -/
def replyCode (f : Fault) : Int :=
  f.replyCode?.getD (-1)

/-- The fault on one line: kind, code and quoted message. -/
def summary (f : Fault) : String :=
  s!"FtpError(kind={f.kind.name}, code={f.replyCode}, msg={Text.quoted f.message})"

end Fault

end FtpControl
