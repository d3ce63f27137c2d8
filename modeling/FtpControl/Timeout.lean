import FtpControl.Failure

/-!
# Time limits

Limits are given in milliseconds and asked for in seconds, in double precision. Zero
milliseconds means that there is no limit. A socket keeps its limit in whole nanoseconds.
-/

namespace FtpControl

inductive Timeout where
  | unlimited
  | seconds (s : Binary64)
deriving DecidableEq, Repr

namespace Timeout

/-- A thousandth of the double nearest to `millis`, itself rounded to the nearest double. -/
def ofMillis (millis : Int) : Except Failure Timeout :=
  if millis = 0 then .ok .unlimited
  else match (Binary64.ofInt? millis).bind (·.divNat? 1000) with
    | some s => .ok (.seconds s)
    | none => .error .tooLarge

/-- The whole nanoseconds that a socket keeps of so many seconds: their number is a double too,
and is rounded up. -/
def nanoseconds? (s : Binary64) : Option Nat :=
  (s.mulNat? 1000000000).map (·.roundUp)

/-- So many nanoseconds in seconds again. -/
def ofNanoseconds? (ns : Nat) : Option Binary64 :=
  if ns % 1000000000 = 0 then Binary64.ofInt? (ns / 1000000000 : Nat)
  else (Binary64.ofInt? ns).bind (·.divNat? 1000000000)

/-- The limit that a socket says it is under when it was given this one. -/
def kept? : Timeout → Option Timeout
  | unlimited => some unlimited
  | seconds s => ((nanoseconds? s).bind ofNanoseconds?).map seconds

/-- Whether a socket refuses the limit. -/
def isNegative : Timeout → Bool
  | unlimited => false
  | seconds s => s.negative

theorem ofMillis_error {millis : Int} {e : Failure} (h : ofMillis millis = .error e) :
    e = .tooLarge := by
  unfold ofMillis at h
  split at h
  · cases h
  · split at h
    · cases h
    · cases h
      rfl

theorem isNegative_eq_of_ofMillis {millis : Int} {limit : Timeout}
    (h : ofMillis millis = .ok limit) : limit.isNegative = decide (millis < 0) := by
  unfold ofMillis at h
  split at h
  case isTrue hzero =>
    cases h
    simp [isNegative, hzero]
  case isFalse =>
    split at h
    case h_1 s hs =>
      cases h
      obtain ⟨x, hx, hdiv⟩ := Option.bind_eq_some_iff.1 hs
      calc
        s.negative = x.negative := Binary64.negative_of_ofRatio? hdiv
        _ = decide (millis < 0) := Binary64.negative_of_ofRatio? hx
    case h_2 => cases h

theorem isNegative_of_ofMillis {millis : Int} {limit : Timeout} (hmillis : 0 ≤ millis)
    (h : ofMillis millis = .ok limit) : limit.isNegative = false := by
  rw [isNegative_eq_of_ofMillis h]
  simpa using hmillis

/-- Whether sockets take a limit of so many milliseconds. -/
def Usable (millis : Int) : Prop :=
  0 ≤ millis ∧ ∃ limit, ofMillis millis = .ok limit

theorem usable_iff {millis : Int} : Usable millis ↔ 0 ≤ millis ∧ (ofMillis millis).isOk := by
  unfold Usable
  cases ofMillis millis <;> simp [Except.isOk, Except.toBool]

instance (millis : Int) : Decidable (Usable millis) :=
  decidable_of_iff _ usable_iff.symm

theorem isNegative_of_not_usable {millis : Int} {limit : Timeout} (h : ¬ Usable millis)
    (hlimit : ofMillis millis = .ok limit) : limit.isNegative = true := by
  rw [isNegative_eq_of_ofMillis hlimit, decide_eq_true_iff]
  exact Int.not_le.1 fun hmillis => h ⟨hmillis, limit, hlimit⟩

end Timeout

end FtpControl
