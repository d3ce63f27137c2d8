import FtpControl.Failure
import FtpControl.Text.Blank
import FtpControl.Text.Upper
import FtpControl.Text.Utf8

/-!
# Commands

A command is one line of text for the control connection. A password never shows: wherever
a command is logged or recorded, the argument of `PASS` is masked.
-/

namespace FtpControl.Command

/-- What a masked command looks like. -/
def mask : String := "PASS ********"

/-- A command as it may be shown. The verb is taken from the first four characters, which
may have more than four capitals; behind a shorter text there is no place to look at. -/
def masked (command : String) : Except Failure String :=
  let cs := Text.trimStart command.toList
  if Text.upper (cs.take 4) = "PASS".toList then
    if cs.length = 4 then .ok mask
    else match cs[4]? with
      | none => .error .tooShort
      | some c => .ok (if Text.isBlank c then mask else command)
  else .ok command

/-- The bytes that are sent for a command. -/
def bytes (command : String) : List UInt8 :=
  Text.encodeUtf8 (command.toList ++ ['\r', '\n'])

theorem bytes_eq (command : String) :
    bytes command = Text.encodeUtf8 command.toList ++ [13, 10] := by
  rw [bytes, Text.encodeUtf8, List.flatMap_append]
  rfl

end FtpControl.Command
