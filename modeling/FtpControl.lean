import FtpControl.Console
import FtpControl.Exports
import FtpControl.Fault.Given
import FtpControl.Main
import FtpControl.Session
import FtpControl.Proofs.Effect
import FtpControl.Proofs.Network.Ledger
import FtpControl.Proofs.Reply.RoundTrip
import FtpControl.Proofs.Channel.Release
import FtpControl.Proofs.Channel.Lifecycle
import FtpControl.Proofs.Channel.Connecting
import FtpControl.Proofs.Channel.Operations
import FtpControl.Proofs.Channel.Wire
import FtpControl.Proofs.Session.Wire
import FtpControl.Proofs.Session.Secrecy
import FtpControl.Proofs.Channel.Faults
import FtpControl.Proofs.DataConnection
import FtpControl.Proofs.Probe.Tidy
import FtpControl.Proofs.Channel.SettingUp
import FtpControl.Proofs.Negotiation
import FtpControl.Proofs.Probe.Commands
import FtpControl.Proofs.Probe.Negotiating
import FtpControl.Proofs.Probe.Stumbling
import FtpControl.Proofs.Endpoint.RoundTrip
import FtpControl.Proofs.Client.History
import FtpControl.Proofs.Client.Rejection
import FtpControl.Proofs.Probe.Logs
import FtpControl.Proofs.Endpoint.Grammar
import FtpControl.Proofs.Endpoint.AfterMode
import FtpControl.Proofs.Endpoint.Canonical
import FtpControl.Proofs.Negotiation.Custody
import FtpControl.Proofs.DataConnection.Accepting
import FtpControl.Proofs.DataConnection.Standing
import FtpControl.Proofs.Reply.Stream
import FtpControl.Proofs.Reply.Framing
import FtpControl.Proofs.Reply.Rereading
import FtpControl.Proofs.Channel.Turns
import FtpControl.Proofs.Channel.Stray
import FtpControl.Proofs.Channel.Noting
import FtpControl.Proofs.Offline
import FtpControl.Proofs.Channel.Hearing
import FtpControl.Proofs.Channel.Conversation
import FtpControl.Proofs.Channel.Rebuffs
import FtpControl.Proofs.DataConnection.Ownership
import FtpControl.Proofs.Negotiation.Advertising
import FtpControl.Proofs.Negotiation.Dialling
import FtpControl.Proofs.Probe.Transcript
import FtpControl.Proofs.Channel.Exposure
import FtpControl.Proofs.DataConnection.Exposure
import FtpControl.Proofs.Channel.Holding
import FtpControl.Proofs.Console.Ownership
import FtpControl.Proofs.Endpoint.Bijection
import FtpControl.Proofs.Channel.Farewell
import FtpControl.Proofs.Channel.Greeting
import FtpControl.Proofs.Channel.Tracing
import FtpControl.Proofs.Channel.Pacing
import FtpControl.Proofs.Verb.Suggestion
import FtpControl.Proofs.Settings
import FtpControl.Proofs.Client.Masking
import FtpControl.Proofs.Command.Delivery
