import FtpControl.Channel
import FtpControl.Log

/-!
# Settings

How to reach a server, from the environment or given directly. Numbers are read before the
data mode, and only when all have been read are the ranges checked: port, time limit, level.
-/

namespace FtpControl

/-- Variables by name. -/
abbrev Environment := List (String × String)

structure Settings where
  host : String
  port : Int
  timeoutMillis : Int
  dataMode : DataMode
  logLevel : LogLevel
deriving DecidableEq, Repr

namespace Settings

open Effect

def checkPort (port : Int) : Except BadValue Unit :=
  if 1 ≤ port ∧ port ≤ 65535 then .ok () else .error (.portOutOfRange port)

def checkTimeout (millis : Int) : Except BadValue Unit :=
  if millis < 0 then .error (.timeoutBelowZero millis) else .ok ()

/-- A log level by its name, in any case. -/
def level (name : String) : Except BadValue LogLevel :=
  let name := String.ofList (Text.upper name.toList)
  match LogLevel.ofName? name with
  | some level => .ok level
  | none => .error (.unknownLevel name)

/-- Settings with every value checked. -/
def make (host : String) (port timeoutMillis : Int) (dataMode : DataMode) (levelName : String) :
    Except BadValue Settings := do
  checkPort port
  checkTimeout timeoutMillis
  return { host, port, timeoutMillis, dataMode, logLevel := ← level levelName }

/-- A number from a variable; one that is missing or blank has its default. -/
def integer (env : Environment) (name : String) (default : Int) : Except BadValue Int :=
  match env.lookup name with
  | none => .ok default
  | some raw =>
    if Text.trim raw.toList = [] then .ok default
    else match Text.integer? raw.toList with
      | some n => .ok n
      | none => .error (.notAnInteger name raw)

def mode (value : String) : Except BadValue DataMode :=
  match DataMode.ofString? value with
  | some m => .ok m
  | none => .error (.unknownMode value)

def defaultHost : String := "127.0.0.1"

/-- The variables that are looked at. -/
def variableNames : List String :=
  ["FTPCTL_HOST", "FTPCTL_PORT", "FTPCTL_TIMEOUT_MS", "FTPCTL_DATA_MODE", "FTPCTL_LOG_LEVEL"]

def ofEnvironment (env : Environment) : Except BadValue Settings := do
  let port ← integer env "FTPCTL_PORT" Channel.defaultPort
  let timeoutMillis ← integer env "FTPCTL_TIMEOUT_MS" Channel.defaultTimeoutMillis
  let dataMode ← mode ((env.lookup "FTPCTL_DATA_MODE").getD DataMode.passive.value)
  make ((env.lookup "FTPCTL_HOST").getD defaultHost) port timeoutMillis dataMode
    ((env.lookup "FTPCTL_LOG_LEVEL").getD LogLevel.info.name)

/-- All settings on one line. -/
def text (s : Settings) : String :=
  let host := Text.quoted s.host
  let mode := s!"<DataConnectMode.{s.dataMode.name}: {Text.quoted s.dataMode.value}>"
  let level := Text.quoted s.logLevel.name
  s!"ClientConfig(host={host}, port={s.port}, timeout_ms={s.timeoutMillis}, " ++
    s!"data_mode={mode}, log_level={level})"

/-- Settings from the environment, noted in the log. -/
def load (env : Environment) : Net Settings := do
  match ofEnvironment env with
  | .error e => fail (.value e)
  | .ok s =>
    Net.log .settings .debug s!"Loaded config: {s.text}"
    return s

end Settings

end FtpControl
