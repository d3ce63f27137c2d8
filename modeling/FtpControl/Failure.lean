import FtpControl.Binary64
import FtpControl.Fault
import FtpControl.Text.Integer

/-!
# Failures

All ways in which an operation of the library can end without a result: a fault of the
control engine, an error of the operating system, or an argument that makes no sense.
-/

namespace FtpControl

/-- Arguments that are refused, by cause. -/
inductive BadValue where
  | negativeTimeout (millis : Int)
  | timeoutOutOfRange
  | unknownMode (value : String)
  | unknownKind (shown : String)
  | notAnInteger (setting value : String)
  | portOutOfRange (port : Int)
  | timeoutBelowZero (millis : Int)
  | unknownLevel (level : String)
deriving DecidableEq, Repr

def BadValue.message : BadValue → String
  | negativeTimeout millis => s!"Timeout must be >= 0, got {millis}"
  | timeoutOutOfRange => "Timeout value out of range"
  | unknownMode value =>
    s!"Unknown data connect mode: {Text.quoted value} (expected 'active' or 'passive')"
  | unknownKind shown => s!"{shown} is not a valid ErrorKind"
  | notAnInteger setting value => s!"{setting} must be an integer, got {Text.quoted value}"
  | portOutOfRange port => s!"FTPCTL_PORT out of range: {port}"
  | timeoutBelowZero millis => s!"FTPCTL_TIMEOUT_MS must be >= 0: {millis}"
  | unknownLevel level =>
    s!"FTPCTL_LOG_LEVEL must be one of DEBUG, INFO, WARNING, ERROR, CRITICAL: {level}"

/-- The settings that cannot be checked when an option withholds its value. -/
inductive Withheld where
  | mode
  | port
  | timeout
  | level
deriving DecidableEq, Repr

namespace Withheld

/-- Whether a comparison runs into the gap, rather than a call on the value. -/
def isCompared : Withheld → Bool
  | mode | level => false
  | port | timeout => true

/-- The gap is an empty list, and the first operation on it that makes no sense is named. -/
def message : Withheld → String
  | mode => "'list' object has no attribute 'strip'"
  | port => "'<=' not supported between instances of 'int' and 'list'"
  | timeout => "'<' not supported between instances of 'list' and 'int'"
  | level => "'list' object has no attribute 'upper'"

end Withheld

inductive Failure where
  | fault (cause : Fault)
  | system (message : String)
  | value (cause : BadValue)
  /-- A text is one character too short. -/
  | tooShort
  /-- An integer has no double-precision neighbour. -/
  | tooLarge
  /-- A number beyond double precision was to become an integer. -/
  | infinite
  | withheld (setting : Withheld)
  | unknownName (name : String)
  | noDataConnection
  | noSuchDataConnection
  /-- An index is none that any list could have. -/
  | indexTooLarge
deriving DecidableEq, Repr

def Failure.message : Failure → String
  | fault cause => cause.message
  | system message => message
  | value cause => cause.message
  | tooShort => "string index out of range"
  | tooLarge => "int too large to convert to float"
  | infinite => "cannot convert float infinity to integer"
  | withheld setting => setting.message
  | unknownName name => s!"module 'ftpctl' has no attribute {Text.quoted name}"
  | noDataConnection => "no data connection"
  | noSuchDataConnection => "list index out of range"
  | indexTooLarge => "cannot fit 'int' into an index-sized integer"

end FtpControl
