import FtpControl.DataMode
import FtpControl.Text.Upper

/-!
# Verbs

The verbs that a server may know, how far apart two words are, and which verb a misspelt
word may stand for. Of equally near verbs the earlier in the table is meant, so the verbs
that the engine itself sends come first.
-/

namespace FtpControl.Verb

/-- The verbs that the engine sends. -/
def engine : List String :=
  ["USER", "PASS", "QUIT"] ++ DataMode.all.map DataMode.verb

def known : List String :=
  engine ++
    ["ACCT", "CWD", "CDUP", "SMNT", "REIN",
     "TYPE", "STRU", "MODE",
     "RETR", "STOR", "STOU", "APPE", "ALLO", "REST", "RNFR", "RNTO", "ABOR",
     "DELE", "RMD", "MKD", "PWD", "LIST", "NLST", "SITE", "SYST", "STAT",
     "HELP", "NOOP", "FEAT"]

/-- The rest of a row of distances. `left` is the entry just made, `corner` the one above it,
and the list holds the entries above the rest of the row with the characters they stand for. -/
def fillRow (a : Char) : (left corner : Nat) → List (Char × Nat) → List Nat
  | _, _, [] => []
  | left, corner, (b, above) :: rest =>
    let entry := min (min (above + 1) (left + 1)) (corner + if a = b then 0 else 1)
    entry :: fillRow a entry above rest

/-- The distances of a longer prefix from all prefixes of `b`, from those of the prefix that
is one character `a` shorter. -/
def nextRow (b : List Char) (row : List Nat) (a : Char) : List Nat :=
  match row with
  | [] => []
  | first :: above => (first + 1) :: fillRow a (first + 1) first (b.zip above)

/-- The least number of characters to insert, delete or replace to turn `a` into `b`. -/
def distance (a b : List Char) : Nat :=
  ((a.foldl (nextRow b) (List.range (b.length + 1))).getLast?).getD 0

@[irreducible] def isKnown (verb : String) : Bool :=
  known.any fun k => Text.upper verb.toList == k.toList

theorem isKnown_iff {verb : String} :
    isKnown verb = true ↔ ∃ k ∈ known, Text.upper verb.toList = k.toList := by
  unfold isKnown
  simp

/-- How many edits a misspelling may be away. -/
def usualReach : Int := 3

/-- The nearest of the candidates at less than `bound`, the first of equals. -/
def nearest (word : List Char) (best : Option String) (bound : Int) : List String → Option String
  | [] => best
  | k :: rest =>
    let d : Int := distance word k.toList
    if d < bound then nearest word (some k) d rest else nearest word best bound rest

/-- The known verb nearest to a word, if one is within reach. -/
@[irreducible] def suggestion? (verb : String) (reach : Int) : Option String :=
  nearest (Text.upper verb.toList) none (reach + 1) known

end FtpControl.Verb
