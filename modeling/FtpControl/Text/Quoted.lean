import FtpControl.Text.Printable

/-!
# Quoted text

How a text is shown inside a message: between quotes, with everything that cannot be printed
written as an escape. The apostrophe is the usual delimiter; the double quote takes its
place when the text has an apostrophe and no double quote.
-/

namespace FtpControl.Text

def apostrophe : Char := '\x27'

def doubleQuote : Char := '\x22'

/-- The delimiter that needs the fewest escapes. -/
def delimiter (cs : List Char) : Char :=
  if apostrophe ∈ cs ∧ doubleQuote ∉ cs then doubleQuote else apostrophe

/-- The low `width` hexadecimal digits, in lower case. -/
def hexDigits : Nat → Nat → List Char
  | 0, _ => []
  | width + 1, n => hexDigits width (n / 16) ++ [Nat.digitChar (n % 16)]

/-- A character between quotes `q`. -/
def escape (q c : Char) : List Char :=
  if c = '\\' then ['\\', '\\']
  else if c = q then ['\\', q]
  else if c = '\n' then ['\\', 'n']
  else if c = '\r' then ['\\', 'r']
  else if c = '\t' then ['\\', 't']
  else if isPrintable c then [c]
  else if c.toNat < 0x100 then '\\' :: 'x' :: hexDigits 2 c.toNat
  else if c.toNat < 0x10000 then '\\' :: 'u' :: hexDigits 4 c.toNat
  else '\\' :: 'U' :: hexDigits 8 c.toNat

def quote (cs : List Char) : List Char :=
  let q := delimiter cs
  q :: cs.flatMap (escape q) ++ [q]

def quoted (s : String) : String :=
  String.ofList (quote s.toList)

end FtpControl.Text
