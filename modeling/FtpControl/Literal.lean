import FtpControl.Binary64.Shortest
import FtpControl.Text.Quoted

/-!
# Literals

Values of any sort, as a caller may hand them over, and how they are written out.
-/

namespace FtpControl

inductive Literal where
  | nothing
  | flag (b : Bool)
  | integer (n : Int)
  | decimal (x : Binary64)
  | infinity (negative : Bool)
  /-- The result of an operation on numbers that has none. -/
  | undefined
  | text (s : String)
  | list (items : List Literal)
  /-- Values by their keys, one each. -/
  | table (keys : List String) (values : List Literal)
deriving Inhabited

namespace Literal

mutual

/-- The literal as it is written, texts in quotes. -/
def shown : Literal → String
  | nothing => "None"
  | flag b => if b then "True" else "False"
  | integer n => toString n
  | decimal x => x.text
  | infinity negative => if negative then "-inf" else "inf"
  | undefined => "nan"
  | text s => Text.quoted s
  | list items => "[" ++ ", ".intercalate (shownItems items) ++ "]"
  | table keys values =>
    let entries := (keys.zip (shownItems values)).map fun (k, v) => Text.quoted k ++ ": " ++ v
    "\x7b" ++ ", ".intercalate entries ++ "\x7d"

def shownItems : List Literal → List String
  | [] => []
  | item :: rest => shown item :: shownItems rest

end

/-- The literal as a message: a text stands for itself. -/
def message : Literal → String
  | text s => s
  | other => shown other

end Literal

end FtpControl
