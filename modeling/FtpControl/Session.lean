import FtpControl.Client
import FtpControl.Reply.Expected
import FtpControl.Settings

/-!
# Sessions

A session is a client and the data connections that it has obtained, driven by requests one
after the other. A request that fails leaves the session usable.
-/

namespace FtpControl

structure Session where
  client : Client := {}
  datas : List DataConnection := []

/-- Through what a data connection is negotiated: the client, which records it, or the bare
negotiation. -/
inductive Negotiator where
  | client
  | channel
deriving DecidableEq, Repr

inductive Request where
  | renew
  | connect (host : String) (port timeoutMillis : Int)
  /-- Connects a fresh channel, which takes the place of the old one if all goes well. -/
  | replace (host : String) (port timeoutMillis : Int)
  | send (command : String)
  | read
  | logout
  | close
  /-- Sends the command, if there is one, and leaves the channel closed. -/
  | closing (command : Option String)
  | setTimeout (millis : Int)
  | setTracing (on : Bool)
  | localHost
  | remoteAddress
  | remoteHostName
  | snapshot
  | execute (command : String) (expected : List Expectation)
  | history
  | clearHistory
  | negotiate (mode : String) (via : Negotiator)
  | dataSocket (index : Int)
  | accept (index : Int) (waitMillis : Option Int)
  | dataAddress (index : Int)
  | dataStatus (index : Int)
  | dataClose (index : Int)
  /-- Asks for the local address and leaves the data connection closed. -/
  | dataClosing (index : Int)

inductive Answer where
  | nothing
  | reply (r : Reply)
  | text (s : String)
  | address (a : Address)
  | channel (c : Channel)
  | history (entries : List Entry)
  | negotiated (d : DataConnection)
  | status (d : DataConnection)
  | socket (handle : Handle) (peer : Address) (limit : Timeout)

namespace Session

open Effect Live

variable {α : Type}

def onClient (m : Op Client α) : Op Session α :=
  focus Session.client (fun s client => { s with client }) m

def onChannel (m : Op Channel α) : Op Session α :=
  onClient (Client.onChannel m)

/-- Whether an index is a number that a list can be asked for at all. -/
def isIndex (index : Int) : Bool :=
  -9223372036854775808 ≤ index && index < 9223372036854775808

/-- The place of a data connection; a negative index counts from the end. -/
def place? (index : Int) (s : Session) : Option Nat :=
  let k := if index < 0 then index + s.datas.length else index
  if 0 ≤ k ∧ k < s.datas.length then some k.toNat else none

/-- An operation of one of the data connections. -/
def onData (index : Int) (m : Op DataConnection α) : Op Session α := do
  let s ← this
  if s.datas.isEmpty then fail .noDataConnection
  if !isIndex index then fail .indexTooLarge
  match (s.place? index).bind fun k => (s.datas[k]?).map fun d => (k, d) with
  | none => fail .noSuchDataConnection
  | some (k, d) =>
    focus (fun s => (s.datas[k]?).getD d) (fun s d => { s with datas := s.datas.set k d }) m

/-- How a data socket is shown. -/
def describe (handle : Handle) : Op Session Answer := do
  let peer ← call (Net.peerAddress handle)
  return .socket handle peer ((← call state).sockets handle).timeout

def negotiate (mode : String) (via : Negotiator) : Op Session Answer := do
  let mode ← match Settings.mode mode with
    | .ok mode => pure mode
    | .error e => fail (.value e)
  let d ← match via with
    | .client => onClient (Client.openData mode)
    | .channel => onChannel (Negotiation.run mode)
  change fun s => { s with datas := s.datas ++ [d] }
  return .negotiated d

def perform : Request → Op Session Answer
  | .renew => do
    change fun s => { s with client := {} }
    return .nothing
  | .connect host port timeoutMillis =>
    .reply <$> onChannel (Channel.connect ⟨some host, port⟩ timeoutMillis)
  | .replace host port timeoutMillis => do
    let (reply, channel) ← lend ({} : Channel) do
      let reply ← Channel.connect ⟨some host, port⟩ timeoutMillis
      return (reply, ← this)
    change fun s => { s with client := { channel } }
    return .reply reply
  | .send command => .reply <$> onChannel (Channel.send command)
  | .read => .reply <$> onChannel Channel.readReply
  | .logout => do
    onChannel Channel.logout
    return .nothing
  | .close => do
    onChannel Channel.close
    return .nothing
  | .closing command =>
    onChannel <| Channel.closing do
      match command with
      | some command => return .reply (← Channel.send command)
      | none => return .nothing
  | .setTimeout millis => do
    onChannel (Channel.setTimeout millis)
    return .nothing
  | .setTracing on => do
    onChannel (change fun c => { c with tracing := on })
    return .nothing
  | .localHost => .text <$> onChannel Channel.localHost
  | .remoteAddress => .address <$> onChannel Channel.remoteAddress
  | .remoteHostName => .text <$> onChannel Channel.remoteHostName
  | .snapshot => .channel <$> onChannel this
  | .execute command expected =>
    .reply <$> onClient (Client.execute command (Expectation.codes? expected))
  | .history => do return .history (← this).client.history
  | .clearHistory => do
    onClient Client.clearHistory
    return .nothing
  | .negotiate mode via => negotiate mode via
  | .dataSocket index => do describe (← onData index DataConnection.dataSocket)
  | .accept index waitMillis => do describe (← onData index (DataConnection.accept waitMillis))
  | .dataAddress index => .address <$> onData index DataConnection.localAddress
  | .dataStatus index => .status <$> onData index this
  | .dataClose index => do
    onData index DataConnection.close
    return .nothing
  | .dataClosing index =>
    .address <$> onData index (DataConnection.closing DataConnection.localAddress)

/-- Performs a request with an empty journal, which then tells of this request alone. -/
def step (r : Request) (s : Live Session) : Except Failure Answer × Live Session :=
  (perform r).run { s with net := s.net.forgetJournal }

end Session

end FtpControl
