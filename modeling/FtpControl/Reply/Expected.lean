/-!
# Expected codes

Which codes a caller is content with. They are given one by one, or as a single group; what
is neither a code nor stands in such a group matches no reply.
-/

namespace FtpControl

inductive Expectation where
  | code (c : String)
  | group (codes : List String)
  | nothing
deriving DecidableEq, Repr

namespace Expectation

def code? : Expectation → Option String
  | code c => some c
  | _ => none

/-- The codes that fulfil a list of expectations. -/
def codes : List Expectation → List String
  | [group cs] => cs
  | items => items.filterMap code?

/-- No expectations at all are fulfilled by every reply. -/
def codes? (expected : List Expectation) : Option (List String) :=
  if expected.isEmpty then none else some (codes expected)

end Expectation

end FtpControl
