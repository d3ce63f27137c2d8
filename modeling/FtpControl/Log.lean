/-!
# Log records

Who says what, and how important it is. A record is kept only when its level reaches the
threshold in force.
-/

namespace FtpControl

inductive LogLevel where
  | debug
  | info
  | warning
  | error
  | critical
deriving DecidableEq, Repr

namespace LogLevel

/-- All levels, from the least important. -/
def all : List LogLevel := [.debug, .info, .warning, .error, .critical]

def name : LogLevel → String
  | .debug => "DEBUG"
  | .info => "INFO"
  | .warning => "WARNING"
  | .error => "ERROR"
  | .critical => "CRITICAL"

def rank : LogLevel → Nat
  | .debug => 10
  | .info => 20
  | .warning => 30
  | .error => 40
  | .critical => 50

/-- The level of a name in capitals. -/
def ofName? (s : String) : Option LogLevel :=
  all.find? fun level => level.name == s

end LogLevel

/-- The parts of the program that write to the log. -/
inductive LogSource where
  | reply
  | endpoint
  | channel
  | dataConnection
  | client
  | settings
  | console
  | probe
deriving DecidableEq, Repr

def LogSource.name : LogSource → String
  | .reply => "ftpctl.core.reply"
  | .endpoint => "ftpctl.core.address"
  | .channel => "ftpctl.core.connection"
  | .dataConnection => "ftpctl.core.data_connection"
  | .client => "ftpctl.core.commands"
  | .settings => "ftpctl.config"
  | .console => "ftpctl.ui.app"
  | .probe => "ftpctl"

structure LogRecord where
  source : LogSource
  level : LogLevel
  message : String
deriving DecidableEq, Repr

def LogRecord.line (r : LogRecord) : String :=
  s!"{r.source.name} - {r.level.name} - {r.message}"

end FtpControl
