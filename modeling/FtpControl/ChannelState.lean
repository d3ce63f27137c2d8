/-!
# Life of a control channel

A channel is created without a connection, is connected once, and ends closed.
-/

namespace FtpControl

inductive ChannelState where
  | unconnected
  | connected
  | closed
deriving DecidableEq, Repr

/-- The name shown in messages. -/
def ChannelState.name : ChannelState → String
  | .unconnected => "UNCONNECTED"
  | .connected => "CONNECTED"
  | .closed => "CLOSED"

/-- The value shown in a snapshot. -/
def ChannelState.value : ChannelState → String
  | .unconnected => "unconnected"
  | .connected => "connected"
  | .closed => "closed"

end FtpControl
