import FtpControl.Text.Blank

/-!
# Data connection modes

Who opens a data connection: the server (active, announced by `PORT`) or the client
(passive, asked for by `PASV`).
-/

namespace FtpControl

inductive DataMode where
  | active
  | passive
deriving DecidableEq, Repr

namespace DataMode

/-- Both modes, in the order in which they are offered. -/
def all : List DataMode := [.active, .passive]

def name : DataMode → String
  | .active => "ACTIVE"
  | .passive => "PASSIVE"

def value : DataMode → String
  | .active => "active"
  | .passive => "passive"

/-- The control command that negotiates the mode. -/
def verb : DataMode → String
  | .active => "PORT"
  | .passive => "PASV"

/-- Blanks around the word and the case of its letters do not matter. No letter outside the
basic alphabet has a lower case that occurs in either word. -/
def ofString? (s : String) : Option DataMode :=
  let word := (Text.trim s.toList).map Char.toLower
  all.find? fun mode => mode.value.toList == word

theorem ofString?_value (mode : DataMode) : ofString? mode.value = some mode := by
  cases mode <;> decide +kernel

end DataMode

end FtpControl
