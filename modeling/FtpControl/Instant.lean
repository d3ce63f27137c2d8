/-!
# Instants

The clock counts seconds from the first moment of 2024, in universal time.
-/

namespace FtpControl.Instant

def isLeap (year : Nat) : Bool :=
  year % 4 = 0 && (year % 100 ≠ 0 || year % 400 = 0)

def daysOfMonths (year : Nat) : List Nat :=
  [31, if isLeap year then 29 else 28, 31, 30, 31, 30, 31, 31, 30, 31, 30, 31]

/-- The month and the day in it, both from 1, of a day counted from 0. -/
def monthDay (month day : Nat) : List Nat → Nat × Nat
  | [] => (month, day + 1)
  | length :: rest =>
    if day < length then (month, day + 1) else monthDay (month + 1) (day - length) rest

/-- The year, month and day of a day counted from the start of a year. -/
def date (year day : Nat) : Nat × Nat × Nat :=
  let length := if isLeap year then 366 else 365
  if day < length then (year, monthDay 1 day (daysOfMonths year))
  else date (year + 1) (day - length)
termination_by day
decreasing_by
  have : 0 < length := by simp only [length]; split <;> decide
  omega

/-- A number with leading zeros up to a width. -/
def padded (width n : Nat) : String :=
  let digits := toString n
  String.ofList (List.replicate (width - digits.length) '0') ++ digits

/-- Date and time of day, with the offset from universal time. -/
def text (seconds : Nat) : String :=
  let (year, month, day) := date 2024 (seconds / 86400)
  let s := seconds % 86400
  let ymd := "-".intercalate [padded 4 year, padded 2 month, padded 2 day]
  let hms := ":".intercalate [padded 2 (s / 3600), padded 2 (s / 60 % 60), padded 2 (s % 60)]
  s!"{ymd}T{hms}+00:00"

end FtpControl.Instant
