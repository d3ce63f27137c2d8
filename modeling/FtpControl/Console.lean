import FtpControl.Client
import FtpControl.Settings
import FtpControl.Verb

/-!
# The console

An interactive page over one control connection. Every visit runs the whole page from top
to bottom. The page has a front end, which shows it, says what the visitor enters and
presses, and keeps the client connected, if any, from visit to visit.
-/

namespace FtpControl

/-- One element of the page. -/
inductive Element where
  | pageConfig (title layout : String)
  | columns (left right : Nat)
  | title (s : String)
  | header (s : String)
  | subheader (s : String)
  | caption (s : String)
  | info (s : String)
  | success (s : String)
  | error (s : String)
  | write (s : String)
  | markdown (s : String)
  | expander (label : String)
  | textField (label value : String)
  | numberField (label : String) (value least most step : Int)
  | radio (label value : String) (options : List String)
  | button (label : String)
deriving DecidableEq, Repr

/-- What a page asks of its front end, with whatever state that is in. Any of it may break
off, for a reason of the front end's own. A client is kept by its number. -/
structure Frontend (ε φ : Type) where
  put (e : Element) : Effect ε φ Unit
  button (label : String) : Effect ε φ Bool
  textField (label default : String) : Effect ε φ String
  numberField (label : String) (default least most step : Int) : Effect ε φ Int
  radio (label default : String) (options : List String) : Effect ε φ String
  /-- Whether it is known which client is kept, were it none. -/
  remembers : Effect ε φ Bool
  kept : Effect ε φ (Option Nat)
  keep (client : Option Nat) : Effect ε φ Unit
  /-- Breaks off to run the page again. -/
  rerun : Effect ε φ Unit

/-- A page with its front end and the clients made so far, in order. -/
structure Desk (φ : Type) where
  front : φ
  clients : Nat → Client := fun _ => {}
  made : Nat := 0
  /-- The buttons found pressed since the visit began. The page does not look at it. -/
  pressed : List String := []

/-- Why a visit ends early: the front end breaks off, or the page breaks down. -/
inductive Halt (ε : Type) where
  | front (cause : ε)
  | failure (cause : Failure)
deriving DecidableEq, Repr

abbrev Page (ε φ α : Type) := Effect (Halt ε) (Live (Desk φ)) α

namespace Console

open Effect Live

variable {ε φ α : Type}

/-- A call to the front end. -/
def onFront (m : Effect ε φ α) : Page ε φ α :=
  (m.zoom (fun s => s.self.front) fun s front => { s with self := { s.self with front } }).rescue
    fun cause => fail (.front cause)

/-- An operation whose failures break the page down. -/
def step (m : Op (Desk φ) α) : Page ε φ α :=
  m.rescue fun e => fail (.failure e)

def onNet (m : Net α) : Page ε φ α :=
  step (call m)

def log (level : LogLevel) (message : String) : Page ε φ Unit :=
  onNet (Net.log .console level message)

/-- Goes on with `h` behind a fault. -/
def onFault (m : Page ε φ Unit) (h : Fault → Page ε φ Unit) : Page ε φ Unit :=
  m.rescue fun
    | .failure (.fault f) => h f
    | e => fail e

/-- A new client for a channel, and its number. -/
def enrol (channel : Channel) : Page ε φ Nat := do
  let i := (← this).made
  change fun d => { d with clients := setAt d.clients i { channel }, made := i + 1 }
  return i

def onClient (i : Nat) (m : Op Client α) : Page ε φ α :=
  step (focus (fun d => d.clients i) (fun d c => { d with clients := setAt d.clients i c }) m)

/-- How a fault is shown. -/
def faultText (f : Fault) : String :=
  s!"{f.kind.name}: {f.message}"

section Parts

variable (F : Frontend ε φ)

def put (e : Element) : Page ε φ Unit :=
  onFront (F.put e)

def button (label : String) : Page ε φ Bool := do
  let pressed ← onFront (F.button label)
  if pressed then change fun d => { d with pressed := d.pressed ++ [label] }
  return pressed

/-- Takes leave of the server and forgets the client, whatever comes of it. -/
def disconnect : Page ε φ Unit := do
  match ← onFront F.kept with
  | none => pure ()
  | some i =>
    ensure
      (onFault
        (do
          onClient i (Client.onChannel Channel.logout)
          put F (.info "Disconnected"))
        fun f => do
          log .error s!"[UI] Error disconnecting: {f.message}"
          put F (.error s!"Error disconnecting: {f.message}"))
      (onFront (F.keep none))

/-- Connects a fresh channel; a client is made and kept only if that succeeds. -/
def connect (host : String) (port timeoutMillis : Int) : Page ε φ Unit :=
  onFault
    (do
      log .info s!"[UI] Connecting to {host}:{port}..."
      let (banner, channel) ← step <| lend ({} : Channel) do
        return (← Channel.connect ⟨some host, port⟩ timeoutMillis, ← this)
      onFront (F.keep (some (← enrol channel)))
      put F (.success s!"{banner.code.toString} — {banner.text}"))
    fun f => do
      log .error s!"[UI] Connection failed: {f.message}"
      put F (.error s!"Connection failed ({f.kind.name}): {f.message}")

def sidebar (s : Settings) : Page ε φ Unit := do
  put F (.header "Connection")
  let host ← onFront (F.textField "Host" s.host)
  let port ← onFront (F.numberField "Port" s.port 1 65535 1)
  let timeoutMillis ← onFront (F.numberField "Timeout (ms)" s.timeoutMillis 0 600000 1000)
  if ← button F "Connect" then
    disconnect F
    connect F host port timeoutMillis
  if ← button F "Disconnect" then
    disconnect F

def notConnected : Page ε φ Unit :=
  put F (.error "Not connected. Connect first.")

def unknownVerb (verb : String) : Page ε φ Unit := do
  put F (.error s!"Unknown command: {verb}")
  match Verb.suggestion? verb Verb.usualReach with
  | some k => put F (.write s!"Try with {k}")
  | none => pure ()

/-- Runs a command, if its verb is one that servers know. -/
def runCommand (client : Option Nat) (command : List Char) : Page ε φ Unit := do
  let verb := String.ofList (Text.firstField ' ' command)
  match client with
  | none => notConnected F
  | some i =>
    if Verb.isKnown verb then
      onFault
        (do
          let reply ← onClient i (Client.execute (String.ofList command) none)
          put F (if reply.isError then .error reply.line else .success reply.line))
        fun f => do
          log .error s!"[UI] Command error: {f.message}"
          put F (.error (faultText f))
    else unknownVerb F verb

/-- What is told of a new data connection. -/
def announcement : Op DataConnection String := do
  if (← this).isPending then
    let own ← DataConnection.localAddress
    return s!"Listening on {own.text} (PORT accepted)"
  else
    let peer ← call (Net.peerAddress (← DataConnection.dataSocket))
    return s!"Connected to {peer.text} (PASV)"

/-- Negotiates a data connection, tells where it is, and closes it. -/
def negotiate (client : Option Nat) (mode : String) : Page ε φ Unit :=
  match client with
  | none => notConnected F
  | some i =>
    onFault
      (do
        let d ← match Settings.mode mode with
          | .ok mode => onClient i (Client.openData mode)
          | .error e => fail (.failure (.value e))
        ensure
          (do put F (.success (← step (lend d announcement))))
          (step (lend d DataConnection.close)))
      fun f => put F (.error (faultText f))

def terminal (s : Settings) (client : Option Nat) : Page ε φ Unit := do
  put F (.subheader "Terminal")
  let command ← onFront (F.textField "Command" "")
  let pressed ← button F "Run"
  if pressed && !command.isEmpty then
    runCommand F client (Text.trim command.toList)
  put F (.subheader "Data connection")
  let mode ← onFront (F.radio "Mode" s.dataMode.value (DataMode.all.map DataMode.value))
  if ← button F "Negotiate" then
    negotiate F client mode

def putAll : List Element → Page ε φ Unit
  | [] => pure ()
  | e :: rest => do
    put F e
    putAll rest

/-- How an entry of the history is shown. -/
def entryElements (e : Entry) : List Element :=
  [.expander s!"{Instant.text e.time} — {e.command}"] ++
    (match e.reply with
      | some reply =>
        [.write s!"Code: {reply.code.toString}", .write s!"Message: {reply.text}",
          .write s!"Type: {reply.category.name}"]
      | none => []) ++
    (match e.error with
      | some f => [.error f.message]
      | none => [])

/-- The most entries that are shown. -/
def shownEntries : Nat := 100

/-- The history, latest first. Clearing it asks for a new run of the page. -/
def historyPanel (client : Option Nat) : Page ε φ Unit := do
  put F (.subheader "History")
  match client with
  | none => put F (.info "No history: not connected")
  | some i =>
    if ← button F "Clear History" then
      onClient i Client.clearHistory
      onFront F.rerun
    let history := ((← this).clients i).history
    putAll F ((history.reverse.take shownEntries).flatMap entryElements)

/-- Sees to it that it is known which client is kept. -/
def recollect : Page ε φ Unit := do
  unless ← onFront F.remembers do
    onFront (F.keep none)

/-- One visit: the page from top to bottom. -/
def visit (env : Environment) : Page ε φ Unit := do
  let s ← onNet (Settings.load env)
  onNet (Net.setThreshold s.logLevel)
  put F (.pageConfig "ftpctl console" "wide")
  recollect F
  put F (.title "ftpctl — control channel console")
  sidebar F s
  let client ← onFront F.kept
  put F (.columns 3 1)
  terminal F s client
  historyPanel F client
  put F (.markdown "---")
  put F (.caption "ftpctl console — commands are recorded with PASS masked.")

/-- A visit with an empty journal. -/
def run (env : Environment) (s : Live (Desk φ)) : Except (Halt ε) Unit × Live (Desk φ) :=
  (visit F env).run ⟨{ s.self with pressed := [] }, s.net.forgetJournal⟩

end Parts

end Console

/-! ## A visitor known beforehand -/

/-- What the visitor has entered and pressed. A field that was not touched has its default. -/
structure Visit where
  texts : List (String × String) := []
  numbers : List (String × Int) := []
  clicks : List String := []

/-- The client kept, once that is known, and what is shown on a visit. -/
structure Browser where
  visit : Visit := {}
  client : Option (Option Nat) := none
  shown : List Element := []

namespace Browser

def put (e : Element) : Effect Unit Browser Unit :=
  .update fun s => { s with shown := s.shown ++ [e] }

/-- Shows a field or a button and yields what the visitor has done about it. -/
def ask {α : Type} (answer : Visit → α) (e : α → Element) : Effect Unit Browser α := do
  let a := answer (← Effect.state).visit
  put (e a)
  return a

end Browser

/-- The front end of such a visitor. It breaks off only to run the page again. -/
def Frontend.scripted : Frontend Unit Browser where
  put := Browser.put
  button label := Browser.ask (fun v => v.clicks.contains label) fun _ => .button label
  textField label default :=
    Browser.ask (fun v => (v.texts.lookup label).getD default) (.textField label)
  numberField label default least most step :=
    Browser.ask (fun v => (v.numbers.lookup label).getD default)
      fun value => .numberField label value least most step
  radio label default options :=
    Browser.ask (fun v => (v.texts.lookup label).getD default)
      fun value => .radio label value options
  remembers := do return (← Effect.state).client.isSome
  kept := do return (← Effect.state).client.join
  keep client := .update fun s => { s with client := some client }
  rerun := .fail ()

abbrev Console := Desk Browser

namespace Console

instance : EmptyCollection Console := ⟨{ front := {} }⟩

def shown (c : Console) : List Element :=
  c.front.shown

/-- Why a visit ends early: the page asks to be run again, or it broke down. -/
inductive Stop where
  | rerun
  | failure (cause : Failure)
deriving DecidableEq, Repr

def Stop.ofHalt : Halt Unit → Stop
  | .front () => .rerun
  | .failure cause => .failure cause

/-- A visit that begins with an empty page. -/
def turn (env : Environment) (v : Visit) (s : Live Console) : Except Stop Unit × Live Console :=
  let (outcome, s) := run .scripted env
    ⟨{ s.self with front := { s.self.front with visit := v, shown := [] } }, s.net⟩
  (outcome.mapError Stop.ofHalt, s)

end Console

end FtpControl
