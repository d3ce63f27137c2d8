import FtpControl.Text.Digit

/-!
# Replies

A reply is a code of three digits and a text. The text holds neither the code nor the
separator that follows it on the line.
-/

namespace FtpControl

/-- The three decimal digits that open every reply. -/
structure ReplyCode where
  first : Fin 10
  second : Fin 10
  third : Fin 10
deriving DecidableEq, Repr

namespace ReplyCode

def digitChar (d : Fin 10) : Char :=
  Char.ofNat (48 + d.val)

def toList (c : ReplyCode) : List Char :=
  [digitChar c.first, digitChar c.second, digitChar c.third]

def toString (c : ReplyCode) : String :=
  String.ofList c.toList

def value (c : ReplyCode) : Nat :=
  100 * c.first.val + 10 * c.second.val + c.third.val

/-- Exactly three digits of the basic alphabet make a code. -/
def ofList? : List Char → Option ReplyCode
  | [a, b, c] =>
    if h : Text.isAsciiDigit a ∧ Text.isAsciiDigit b ∧ Text.isAsciiDigit c then
      some ⟨⟨Text.asciiValue a, Text.asciiValue_lt_ten h.1⟩,
        ⟨Text.asciiValue b, Text.asciiValue_lt_ten h.2.1⟩,
        ⟨Text.asciiValue c, Text.asciiValue_lt_ten h.2.2⟩⟩
    else none
  | _ => none

theorem ofList?_toList (c : ReplyCode) : ofList? c.toList = some c := by
  have digit : ∀ d : Fin 10, Text.isAsciiDigit (digitChar d) = true ∧
      Text.asciiValue (digitChar d) = d.val := by decide
  simp [ofList?, toList, digit]

end ReplyCode

structure Reply where
  code : ReplyCode
  text : String
deriving DecidableEq, Repr

namespace Reply

/-- What the first digit of the code says about the outcome. -/
inductive Category where
  | preliminary
  | success
  | intermediate
  | transient
  | permanent
  | unknown
deriving DecidableEq, Repr

def Category.name : Category → String
  | .preliminary => "preliminary"
  | .success => "success"
  | .intermediate => "intermediate"
  | .transient => "transient"
  | .permanent => "permanent"
  | .unknown => "unknown"

def category (r : Reply) : Category :=
  match r.code.first.val with
  | 1 => .preliminary
  | 2 => .success
  | 3 => .intermediate
  | 4 => .transient
  | 5 => .permanent
  | _ => .unknown

def isError (r : Reply) : Bool :=
  r.category = .transient || r.category = .permanent

/-- The reply on one line, without its line end. -/
def line (r : Reply) : String :=
  r.code.toString ++ " " ++ r.text

end Reply

end FtpControl
