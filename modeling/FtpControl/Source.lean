import FtpControl.Text.Encoding

/-!
# Incoming bytes

What a connection has received and not yet read, and what happens when it runs out. Reading
a line takes all bytes through the next line feed; a failed read takes none.
-/

namespace FtpControl

/-- What a reader meets behind the last byte received: nothing until its patience ends, the
end of the stream, or an error of the transport. -/
inductive Ending where
  | silent
  | eof
  | failing (why : String)
deriving DecidableEq, Repr

/-- What a wait that ends without an answer is reported as. -/
def timedOut : String := "timed out"

def lineFeed : UInt8 := 10

/-- The bytes through the first line feed, and the bytes after it. -/
def cutLine : List UInt8 → Option (List UInt8 × List UInt8)
  | [] => none
  | b :: bs =>
    if b = lineFeed then some ([b], bs)
    else (cutLine bs).map fun cut => (b :: cut.1, cut.2)

theorem append_of_cutLine {bytes line rest : List UInt8} (h : cutLine bytes = some (line, rest)) :
    line ++ rest = bytes ∧ line ≠ [] := by
  induction bytes generalizing line rest with
  | nil => simp [cutLine] at h
  | cons b bs ih =>
    unfold cutLine at h
    split at h
    · simp only [Option.some.injEq, Prod.mk.injEq] at h
      obtain ⟨rfl, rfl⟩ := h
      simp
    · obtain ⟨⟨l, r⟩, hc, heq⟩ := Option.map_eq_some_iff.1 h
      simp only [Prod.mk.injEq] at heq
      obtain ⟨rfl, rfl⟩ := heq
      simp [(ih hc).1]

theorem cutLine_eq_none_iff {bytes : List UInt8} : cutLine bytes = none ↔ lineFeed ∉ bytes := by
  induction bytes with
  | nil => simp [cutLine]
  | cons b bs ih =>
    unfold cutLine
    split
    · next h => simp [h]
    · next h => simp [ih, Ne.symm h]

theorem cutLine_append {line : List UInt8} (h : lineFeed ∉ line) (rest : List UInt8) :
    cutLine (line ++ lineFeed :: rest) = some (line ++ [lineFeed], rest) := by
  induction line with
  | nil => simp [cutLine]
  | cons b bs ih =>
    simp only [List.mem_cons, not_or] at h
    rw [List.cons_append, cutLine, if_neg (Ne.symm h.1), ih h.2]
    rfl

structure Source where
  bytes : List UInt8
  ending : Ending
  /-- The number of reads before one that fails, and how it fails. -/
  fault : Option (Nat × String)
deriving DecidableEq, Repr

namespace Source

/-- A line with its end, or all that is left when the stream has ended. -/
def readLine (src : Source) : Except String (List UInt8) × Source :=
  match src.fault with
  | some (0, why) => (.error why, { src with fault := none })
  | fault =>
    let src := { src with fault := fault.map fun (n, why) => (n - 1, why) }
    match cutLine src.bytes with
    | some (line, rest) => (.ok line, { src with bytes := rest })
    | none =>
      match src.ending with
      | .silent => (.error timedOut, src)
      | .eof => (.ok src.bytes, { src with bytes := [] })
      | .failing why => (.error why, src)

/-- Nothing is lost and nothing is read twice. -/
theorem append_of_readLine {src : Source} {line : List UInt8} (h : src.readLine.1 = .ok line) :
    line ++ src.readLine.2.bytes = src.bytes := by
  revert h
  unfold readLine
  split
  · simp
  · dsimp only
    split
    · next hc =>
      intro h
      cases h
      exact (append_of_cutLine hc).1
    · split
      · simp
      · intro h
        cases h
        simp
      · simp

end Source

/-- The characters before the end of a line: carriage return and line feed together, or else
every one of the two that stands last. -/
def chopLineEnd (cs : List Char) : List Char :=
  match cs.reverse with
  | '\n' :: '\r' :: front => front.reverse
  | back => (back.dropWhile fun c => c = '\r' || c = '\n').reverse

theorem chopLineEnd_crlf (cs : List Char) : chopLineEnd (cs ++ ['\r', '\n']) = cs := by
  simp [chopLineEnd]

namespace Source

/-- The next line without its end, or `none` when the stream has ended. -/
def nextLine (enc : Text.Encoding) (src : Source) : Except String (Option (List Char)) × Source :=
  match src.readLine with
  | (.error why, rest) => (.error why, rest)
  | (.ok [], rest) => (.ok none, rest)
  | (.ok (b :: raw), rest) => (.ok (some (chopLineEnd (enc.decode (b :: raw)))), rest)

theorem length_of_nextLine {enc : Text.Encoding} {src rest : Source} {line : List Char}
    (h : src.nextLine enc = (.ok (some line), rest)) : rest.bytes.length < src.bytes.length := by
  have happend : ∀ raw, src.readLine.1 = .ok raw → raw ++ src.readLine.2.bytes = src.bytes :=
    fun _ => append_of_readLine
  revert h happend
  unfold nextLine
  cases src.readLine with
  | mk r s =>
    rcases r with why | (_ | ⟨b, raw⟩)
    · simp
    · simp
    · intro h happend
      simp only [Prod.mk.injEq] at h
      obtain ⟨-, rfl⟩ := h
      have := congrArg List.length (happend _ rfl)
      simp at this
      omega

end Source

end FtpControl
