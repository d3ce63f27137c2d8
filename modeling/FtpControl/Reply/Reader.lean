import FtpControl.Failure
import FtpControl.Source
import FtpControl.Text.Blank
import FtpControl.Text.Fields

/-!
# Reading replies

A reply is one line, or, when a hyphen follows its code, all lines up to the first that
begins with the same code and a space. A line that opens no reply costs that line alone, so
that the next read starts behind it.
-/

namespace FtpControl

abbrev Line := List Char

namespace Reply

/-- A reply from the characters of its code and its text. -/
def ofParts (code text : List Char) : Except Fault Reply :=
  match ReplyCode.ofList? code with
  | some c => .ok ⟨c, String.ofList text⟩
  | none => .error (.invalidCode (String.ofList code) (String.ofList text))

/-- As `ofParts`, from texts. -/
def make (code text : String) : Except Fault Reply :=
  ofParts code.toList text.toList

/-- Whether a line ends the reply that `code` began. -/
def closes (code line : Line) : Bool :=
  (code ++ [' ']).isPrefixOf line

/-- What a line inside a reply adds to its text. -/
def stripCode (code line : Line) : Line :=
  if (code ++ ['-']).isPrefixOf line then line.drop 4 else line

/-- The text of a reply of several lines: its pieces trimmed, blank ones left out, with a
space between each two. -/
def joinPieces (pieces : List Line) : Line :=
  Text.join [' '] ((pieces.map Text.trim).filter (· ≠ []))

/-- What came of reading, what is left to read, and the lines received on the way. -/
structure Reading (α : Type) where
  outcome : Except Fault α
  rest : Source
  lines : List Line

/-- The pieces of a reply behind its first line. -/
def readPieces (enc : Text.Encoding) (code : Line) (src : Source) : Reading (List Line) :=
  match _next : src.nextLine enc with
  | (.error why, rest) => ⟨.error (.readFailed why), rest, []⟩
  | (.ok none, rest) => ⟨.error (.truncatedReply (String.ofList code)), rest, []⟩
  | (.ok (some line), rest) =>
    if closes code line then ⟨.ok [line.drop 4], rest, [line]⟩
    else
      let next := readPieces enc code rest
      ⟨next.outcome.map (stripCode code line :: ·), next.rest, line :: next.lines⟩
termination_by src.bytes.length
decreasing_by exact Source.length_of_nextLine _next

/-- Whether a line opens a reply. Digits of any script are taken for a code here; a code of
other digits is refused once the reply is complete. -/
def opens (line : Line) : Bool :=
  (line.take 3).length = 3 && (line.take 3).all Text.isDigit

/-- The next reply of the stream. -/
def read (enc : Text.Encoding) (src : Source) : Reading Reply :=
  match src.nextLine enc with
  | (.error why, rest) => ⟨.error (.readFailed why), rest, []⟩
  | (.ok none, rest) => ⟨.error .emptyReply, rest, []⟩
  | (.ok (some []), rest) => ⟨.error .emptyReply, rest, []⟩
  | (.ok (some first), rest) =>
    let code := first.take 3
    if !opens first then ⟨.error (.malformedLine (String.ofList first)), rest, [first]⟩
    else if first[3]? = some '-' then
      let body := readPieces enc code rest
      ⟨body.outcome.bind fun pieces => ofParts code (joinPieces (first.drop 4 :: pieces)),
        body.rest, first :: body.lines⟩
    else ⟨ofParts code (first.drop 4), rest, [first]⟩

/-- How a received line is logged. -/
def received (line : Line) : String :=
  s!"← RECV: {String.ofList line}"

/-- Reads replies one after the other, going on behind a fault. -/
def readMany (enc : Text.Encoding) : Nat → Source → List (Except Fault Reply) × Source × List Line
  | 0, src => ([], src, [])
  | n + 1, src =>
    let first := read enc src
    let (outcomes, rest, lines) := readMany enc n first.rest
    (first.outcome :: outcomes, rest, first.lines ++ lines)

end Reply

end FtpControl
