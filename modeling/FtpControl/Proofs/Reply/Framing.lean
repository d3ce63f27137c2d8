import FtpControl.Proofs.Reply.Stream

/-!
# The frame of a reply

A stream gives lines until it ends or breaks off. Which of its lines make up a reply is said here
of these lines alone: the first one, or all up to the first that closes what the first one opened.
-/

namespace FtpControl

namespace Source

variable {enc : Text.Encoding} {src rest next : Source} {raw : List UInt8}
  {raws : List (List UInt8)} {why : String}

/-- Whether no error is due at the next read. -/
def Undisturbed (src : Source) : Prop :=
  ∀ why, src.fault ≠ some (0, why)

/-- The stream behind one read, with these bytes left. An error to come has come a read nearer. -/
def ahead (src : Source) (bytes : List UInt8) : Source :=
  { src with bytes, fault := src.fault.map (Prod.map (· - 1) id) }

/-- The next line of a stream, and the stream behind it. Only the last line may lack a line
feed. -/
structure Gives (src : Source) (raw : List UInt8) (rest : Source) : Prop where
  undisturbed : src.Undisturbed
  cut : cutLine src.bytes = some (raw, rest.bytes) ∨
    (src.ending = .eof ∧ lineFeed ∉ raw ∧ raw ≠ [] ∧ src.bytes = raw ∧ rest.bytes = [])
  ahead : rest = src.ahead rest.bytes

/-- Lines that a stream gives one after the other, and the stream behind them. -/
inductive Yields : Source → List (List UInt8) → Source → Prop
  | nothing (src : Source) : Yields src [] src
  | line {src next rest : Source} {raw : List UInt8} {raws : List (List UInt8)}
      (h : src.Gives raw next) (hnext : Yields next raws rest) : Yields src (raw :: raws) rest

/-- A stream that has come to its end. -/
structure Ended (src : Source) : Prop where
  undisturbed : src.Undisturbed
  bytes : src.bytes = []
  ending : src.ending = .eof

/-- A stream whose next read is an error: one that is due, or one met before a line is whole. -/
inductive Breaks (src : Source) : String → Prop
  | due {why : String} (h : src.fault = some (0, why)) : Breaks src why
  | silent (h : src.Undisturbed) (hbytes : lineFeed ∉ src.bytes) (hending : src.ending = .silent) :
      Breaks src timedOut
  | failing {why : String} (h : src.Undisturbed) (hbytes : lineFeed ∉ src.bytes)
      (hending : src.ending = .failing why) : Breaks src why

/-! ## One read -/

theorem readLine_of_cut {bytes : List UInt8} (h : src.Undisturbed)
    (hcut : cutLine src.bytes = some (raw, bytes)) :
    src.readLine = (.ok raw, src.ahead bytes) := by
  unfold readLine
  split
  · next why hdue => exact absurd hdue (h why)
  · dsimp only
    rw [hcut]
    rfl

/-- Without a whole line the ending decides. -/
theorem readLine_of_uncut (h : src.Undisturbed) (hcut : lineFeed ∉ src.bytes) :
    (src.ending = .silent → src.readLine = (.error timedOut, src.ahead src.bytes)) ∧
      (src.ending = .eof → src.readLine = (.ok src.bytes, src.ahead [])) ∧
        ∀ why, src.ending = .failing why → src.readLine = (.error why, src.ahead src.bytes) := by
  unfold readLine
  split
  · next why hdue => exact absurd hdue (h why)
  · dsimp only
    rw [cutLine_eq_none_iff.2 hcut]
    refine ⟨fun hending => ?_, fun hending => ?_, fun why hending => ?_⟩
    · rw [hending, ahead, hending]
      rfl
    · rw [hending, ahead, hending]
      rfl
    · rw [hending, ahead, hending]
      rfl

theorem Gives.readLine (h : src.Gives raw rest) : src.readLine = (.ok raw, rest) := by
  rw [h.ahead]
  obtain hcut | ⟨hending, hfeed, -, rfl, hbytes⟩ := h.cut
  · exact readLine_of_cut h.undisturbed hcut
  · rw [(readLine_of_uncut h.undisturbed hfeed).2.1 hending, hbytes]

theorem Gives.ne_nil (h : src.Gives raw rest) : raw ≠ [] := by
  obtain hcut | ⟨-, -, hne, -⟩ := h.cut
  · exact (append_of_cutLine hcut).2
  · exact hne

theorem Gives.append (h : src.Gives raw rest) : raw ++ rest.bytes = src.bytes := by
  obtain hcut | ⟨-, -, -, hraw, hbytes⟩ := h.cut
  · exact (append_of_cutLine hcut).1
  · rw [hraw, hbytes, List.append_nil]

theorem Ended.readLine (h : src.Ended) : src.readLine = (.ok [], src.ahead []) := by
  have hfeed : lineFeed ∉ src.bytes := by simp [h.bytes]
  rw [(readLine_of_uncut h.undisturbed hfeed).2.1 h.ending, h.bytes]

/-- A failed read takes nothing. -/
theorem Breaks.readLine (h : src.Breaks why) :
    ∃ rest, src.readLine = (.error why, rest) ∧ rest.bytes = src.bytes := by
  cases h with
  | due hdue =>
    cases src
    cases hdue
    exact ⟨_, rfl, rfl⟩
  | silent hsound hfeed hending => exact ⟨_, (readLine_of_uncut hsound hfeed).1 hending, rfl⟩
  | failing hsound hfeed hending =>
    exact ⟨_, (readLine_of_uncut hsound hfeed).2.2 why hending, rfl⟩

/-- A stream goes on with a line, or has ended, or breaks off. -/
theorem gives_or_stops (src : Source) :
    (∃ raw rest, src.Gives raw rest) ∨ src.Ended ∨ ∃ why, src.Breaks why := by
  by_cases hdue : src.Undisturbed
  swap
  · obtain ⟨why, hdue⟩ : ∃ why, src.fault = some (0, why) := by simpa [Undisturbed] using hdue
    exact .inr (.inr ⟨why, .due hdue⟩)
  by_cases hfeed : lineFeed ∈ src.bytes
  · obtain ⟨⟨raw, rest⟩, hcut⟩ := Option.ne_none_iff_exists'.1 fun hcut =>
      cutLine_eq_none_iff.1 hcut hfeed
    exact .inl ⟨raw, src.ahead rest, hdue, .inl hcut, rfl⟩
  cases hending : src.ending with
  | silent => exact .inr (.inr ⟨_, .silent hdue hfeed hending⟩)
  | failing why => exact .inr (.inr ⟨why, .failing hdue hfeed hending⟩)
  | eof =>
    by_cases hbytes : src.bytes = []
    · exact .inr (.inl ⟨hdue, hbytes, hending⟩)
    · exact .inl ⟨src.bytes, src.ahead [], hdue, .inr ⟨hending, hfeed, hbytes, rfl, rfl⟩, rfl⟩

theorem Gives.nextLine (h : src.Gives raw rest) (enc : Text.Encoding) :
    src.nextLine enc = (.ok (some (lineOf enc raw)), rest) := by
  rw [nextLine_eq, h.readLine]
  simp [Except.map, h.ne_nil]

theorem Ended.nextLine (h : src.Ended) (enc : Text.Encoding) :
    src.nextLine enc = (.ok none, src.ahead []) := by
  rw [nextLine_eq, h.readLine]
  rfl

theorem Breaks.nextLine (h : src.Breaks why) (enc : Text.Encoding) :
    ∃ rest, src.nextLine enc = (.error why, rest) ∧ rest.bytes = src.bytes := by
  obtain ⟨rest, hread, hbytes⟩ := h.readLine
  refine ⟨rest, ?_, hbytes⟩
  rw [nextLine_eq, hread]
  rfl

end Source

namespace Reply

open Source

variable {enc : Text.Encoding} {src rest next stop : Source} {code : ReplyCode} {raw : List UInt8}
  {body : List (List UInt8)} {why : String}

/-- A line that ends the reply that was opened with this code. -/
def Closing (enc : Text.Encoding) (code : ReplyCode) (raw : List UInt8) : Prop :=
  code.toList ++ [' '] <+: lineOf enc raw

/-- What a line inside a reply says: the code and a hyphen in front of it do not count. -/
def inner (code : ReplyCode) (line : Line) : Line :=
  if code.toList ++ ['-'] <+: line then line.drop 4 else line

/-- The reply that several lines make up. What they say is trimmed, and what is not blank then
stands with a space between each two. -/
def composed (code : ReplyCode) (first : Line) (body : List Line) (last : Line) : Reply :=
  let pieces := first.drop 4 :: body.map (inner code) ++ [last.drop 4]
  ⟨code, String.ofList ([' '].intercalate ((pieces.map Text.trim).filter (· ≠ [])))⟩

namespace Reading

/-- This reply was found, and the stream is left behind it. -/
def Finds (got : Reading Reply) (reply : Reply) (rest : Source) : Prop :=
  got.outcome = .ok reply ∧ got.rest = rest

/-- Nothing was found for this reason, which is one of the transport, and these bytes are left. -/
def Misses (got : Reading Reply) (f : Fault) (bytes : List UInt8) : Prop :=
  got.outcome = .error f ∧ f.kind = .io ∧ got.rest.bytes = bytes

end Reading

/-! ## Behind the first line -/

theorem closes_iff : closes code.toList (lineOf enc raw) = true ↔ Closing enc code raw := by
  rw [closes, List.isPrefixOf_iff_prefix, Closing]

theorem stripCode_eq_inner (code : ReplyCode) (line : Line) :
    stripCode code.toList line = inner code line := by
  simp only [stripCode, inner, List.isPrefixOf_iff_prefix]

theorem readPieces_of_closing (h : src.Gives raw rest) (hclosing : Closing enc code raw) :
    (readPieces enc code.toList src).outcome = .ok [(lineOf enc raw).drop 4] ∧
      (readPieces enc code.toList src).rest = rest := by
  rw [readPieces_of_line (h.nextLine enc), if_pos (closes_iff.2 hclosing)]
  exact ⟨rfl, rfl⟩

theorem readPieces_of_ended (h : src.Ended) (enc : Text.Encoding) (code : ReplyCode) :
    (readPieces enc code.toList src).outcome = .error (.truncatedReply code.toString) ∧
      (readPieces enc code.toList src).rest.bytes = [] := by
  rw [readPieces]
  split <;> rename_i hn <;> rw [h.nextLine] at hn <;> cases hn
  exact ⟨rfl, rfl⟩

theorem readPieces_of_breaks (h : src.Breaks why) (enc : Text.Encoding) (code : ReplyCode) :
    (readPieces enc code.toList src).outcome = .error (.readFailed why) ∧
      (readPieces enc code.toList src).rest.bytes = src.bytes := by
  obtain ⟨rest, hnext, hbytes⟩ := h.nextLine enc
  rw [readPieces]
  split <;> rename_i hn <;> rw [hnext] at hn <;> cases hn
  exact ⟨rfl, hbytes⟩

/-- Lines that do not close the reply only add what they say. -/
theorem readPieces_of_yields (h : src.Yields body stop)
    (hbody : ∀ raw ∈ body, ¬ Closing enc code raw) :
    (readPieces enc code.toList src).outcome =
        (readPieces enc code.toList stop).outcome.map
          ((body.map (lineOf enc)).map (inner code) ++ ·) ∧
      (readPieces enc code.toList src).rest = (readPieces enc code.toList stop).rest := by
  induction h with
  | nothing src =>
    refine ⟨?_, rfl⟩
    cases (readPieces enc code.toList src).outcome <;> rfl
  | line h hnext ih =>
    obtain ⟨hraw, hraws⟩ := List.forall_mem_cons.1 hbody
    obtain ⟨houtcome, hrest⟩ := ih hraws
    rw [readPieces_of_line (h.nextLine enc), if_neg fun hcloses => hraw (closes_iff.1 hcloses)]
    dsimp only
    refine ⟨?_, hrest⟩
    rw [houtcome, stripCode_eq_inner]
    cases (readPieces enc code.toList _).outcome <;> rfl

/-- Lines that do not close a reply come to an end: at a line that does, or with the stream. -/
theorem exists_yields (enc : Text.Encoding) (code : ReplyCode) (src : Source) :
    ∃ body stop, src.Yields body stop ∧ (∀ raw ∈ body, ¬ Closing enc code raw) ∧
      ((∃ last rest, stop.Gives last rest ∧ Closing enc code last) ∨
        stop.Ended ∨ ∃ why, stop.Breaks why) := by
  induction hlength : src.bytes.length using Nat.strong_induction_on generalizing src with
  | _ n ih =>
    obtain ⟨raw, next, h⟩ | hstops := src.gives_or_stops
    swap
    · exact ⟨[], src, .nothing src, by simp, .inr hstops⟩
    by_cases hclosing : Closing enc code raw
    · exact ⟨[], src, .nothing src, by simp, .inl ⟨raw, next, h, hclosing⟩⟩
    have hless : next.bytes.length < n := by
      rw [← hlength, ← h.append, List.length_append]
      have := List.length_pos_iff.2 h.ne_nil
      omega
    obtain ⟨body, stop, hyields, hbody, hstop⟩ := ih _ hless next rfl
    refine ⟨raw :: body, stop, .line h hyields, ?_, hstop⟩
    exact List.forall_mem_cons.2 ⟨hclosing, hbody⟩

/-! ## The whole reply -/

/-- A line that opens with a code is the reply, unless a hyphen follows the code. -/
theorem readBehind_of_code {first : Line} (h : code.toList <+: first) (src : Source) :
    readBehind enc first src =
      if first[3]? = some '-' then
        let body := readPieces enc code.toList src
        ⟨body.outcome.map fun pieces => ⟨code, String.ofList (joinPieces (first.drop 4 :: pieces))⟩,
          body.rest, first :: body.lines⟩
      else ⟨.ok ⟨code, String.ofList (first.drop 4)⟩, src, [first]⟩ := by
  obtain ⟨more, rfl⟩ := h
  have htake : (code.toList ++ more).take 3 = code.toList := rfl
  unfold readBehind
  rw [htake]
  simp only [opens_code, ofParts_toList, Bool.not_true, Bool.false_eq_true, if_false]
  split_ifs
  · cases (readPieces enc code.toList src).outcome <;> rfl
  · rfl

theorem read_of_gives (h : src.Gives raw next) (hcode : code.toList <+: lineOf enc raw) :
    read enc src = readBehind enc (lineOf enc raw) next := by
  apply read_of_first (h.nextLine enc)
  rintro hnil
  rw [hnil] at hcode
  simp [ReplyCode.toList] at hcode

theorem misses_of_breaks (h : src.Breaks why) (enc : Text.Encoding) :
    (read enc src).Misses (.readFailed why) src.bytes := by
  obtain ⟨rest, hnext, hbytes⟩ := h.nextLine enc
  unfold read
  split <;> rename_i hn <;> rw [hnext] at hn <;> cases hn
  exact ⟨rfl, rfl, hbytes⟩

/-- A reply of one line. -/
theorem finds_of_single (h : src.Gives raw next) (hcode : code.toList <+: lineOf enc raw)
    (hsep : (lineOf enc raw)[3]? ≠ some '-') :
    (read enc src).Finds ⟨code, String.ofList ((lineOf enc raw).drop 4)⟩ next := by
  rw [read_of_gives h hcode, readBehind_of_code hcode, if_neg hsep]
  exact ⟨rfl, rfl⟩

section Multi

variable (h : src.Gives raw next) (hcode : code.toList <+: lineOf enc raw)
  (hsep : (lineOf enc raw)[3]? = some '-') (hyields : next.Yields body stop)
  (hbody : ∀ raw ∈ body, ¬ Closing enc code raw)
include h hcode hsep hyields hbody

/-- What comes of a reply of several lines, from what comes of the last of them. -/
theorem read_of_yields :
    (read enc src).outcome = (readPieces enc code.toList stop).outcome.map (fun pieces =>
        ⟨code, String.ofList (joinPieces ((lineOf enc raw).drop 4 ::
          ((body.map (lineOf enc)).map (inner code) ++ pieces)))⟩) ∧
      (read enc src).rest = (readPieces enc code.toList stop).rest := by
  obtain ⟨houtcome, hrest⟩ := readPieces_of_yields hyields hbody
  rw [read_of_gives h hcode, readBehind_of_code hcode, if_pos hsep]
  refine ⟨?_, hrest⟩
  dsimp only
  rw [houtcome]
  cases (readPieces enc code.toList stop).outcome <;> rfl

theorem finds_of_closing {last : List UInt8} (hlast : stop.Gives last rest)
    (hclosing : Closing enc code last) :
    (read enc src).Finds
      (composed code (lineOf enc raw) (body.map (lineOf enc)) (lineOf enc last)) rest := by
  obtain ⟨houtcome, hrest⟩ := read_of_yields h hcode hsep hyields hbody
  obtain ⟨hpieces, hstop⟩ := readPieces_of_closing hlast hclosing
  rw [hpieces] at houtcome
  refine ⟨houtcome.trans ?_, hrest.trans hstop⟩
  simp only [Except.map, composed, joinPieces, Text.join_eq_intercalate, List.cons_append]

theorem misses_of_ended (hended : stop.Ended) :
    (read enc src).Misses (.truncatedReply code.toString) [] := by
  obtain ⟨houtcome, hrest⟩ := read_of_yields h hcode hsep hyields hbody
  obtain ⟨hpieces, hstop⟩ := readPieces_of_ended hended enc code
  rw [hpieces] at houtcome
  rw [← hrest] at hstop
  exact ⟨houtcome, rfl, hstop⟩

theorem misses_of_broken (hbroken : stop.Breaks why) :
    (read enc src).Misses (.readFailed why) stop.bytes := by
  obtain ⟨houtcome, hrest⟩ := read_of_yields h hcode hsep hyields hbody
  obtain ⟨hpieces, hstop⟩ := readPieces_of_breaks hbroken enc code
  rw [hpieces] at houtcome
  rw [← hrest] at hstop
  exact ⟨houtcome, rfl, hstop⟩

end Multi

/-- The frame of a reply, on any bytes and in any encoding. A line that opens with a code is a
reply by itself, unless a hyphen follows the code. Then the reply goes on through the first line
that closes it, and without one the stream is read to its end, or to the error it breaks off at.
An error takes nothing more, be it met at the first line or at a later one. -/
theorem read_framed (enc : Text.Encoding) (src : Source) :
    (∀ why, src.Breaks why → (read enc src).Misses (.readFailed why) src.bytes) ∧
      ∀ (code : ReplyCode) raw next, src.Gives raw next → code.toList <+: lineOf enc raw →
        ((lineOf enc raw)[3]? ≠ some '-' →
          (read enc src).Finds ⟨code, String.ofList ((lineOf enc raw).drop 4)⟩ next) ∧
        ((lineOf enc raw)[3]? = some '-' →
          (∃ body stop, next.Yields body stop ∧ (∀ raw ∈ body, ¬ Closing enc code raw) ∧
            ((∃ last rest, stop.Gives last rest ∧ Closing enc code last) ∨
              stop.Ended ∨ ∃ why, stop.Breaks why)) ∧
          ∀ body stop, next.Yields body stop → (∀ raw ∈ body, ¬ Closing enc code raw) →
            (∀ last rest, stop.Gives last rest → Closing enc code last →
              (read enc src).Finds (composed code (lineOf enc raw) (body.map (lineOf enc))
                (lineOf enc last)) rest) ∧
            (stop.Ended → (read enc src).Misses (.truncatedReply code.toString) []) ∧
            ∀ why, stop.Breaks why → (read enc src).Misses (.readFailed why) stop.bytes) := by
  refine ⟨fun why h => misses_of_breaks h enc, fun code raw next h hcode => ⟨?_, ?_⟩⟩
  · exact finds_of_single h hcode
  intro hsep
  refine ⟨exists_yields enc code next, fun body stop hyields hbody => ⟨?_, ?_, ?_⟩⟩
  · exact fun last rest hlast => finds_of_closing h hcode hsep hyields hbody hlast
  · exact misses_of_ended h hcode hsep hyields hbody
  · exact fun why => misses_of_broken h hcode hsep hyields hbody

/-- A byte that means nothing, a blank line and the code by itself do not end a reply. -/
theorem read_framed_lossy :
    let first := Text.encodeUtf8 "220-".toList ++ [0xFF] ++ Text.encodeUtf8 " a\r\n".toList
    let blank := Text.encodeUtf8 "\r\n".toList
    let bare := Text.encodeUtf8 "220\r\n".toList
    let last := Text.encodeUtf8 "220 b\r\n".toList
    let tail := Text.encodeUtf8 "226 c".toList
    (read .utf8 ⟨first ++ (blank ++ (bare ++ (last ++ tail))), .eof, none⟩).Finds
      ⟨⟨2, 2, 0⟩, "\uFFFD a 220 b"⟩ ⟨tail, .eof, none⟩ := by
  intro first blank bare last tail
  have gives : ∀ raw rest, cutLine (raw ++ rest) = some (raw, rest) →
      (⟨raw ++ rest, .eof, none⟩ : Source).Gives raw ⟨rest, .eof, none⟩ :=
    fun raw rest hcut => ⟨by simp [Undisturbed], .inl hcut, rfl⟩
  have hfirst := gives first (blank ++ (bare ++ (last ++ tail))) (by decide +kernel)
  have hblank := gives blank (bare ++ (last ++ tail)) (by decide +kernel)
  have hbare := gives bare (last ++ tail) (by decide +kernel)
  have hlast := gives last tail (by decide +kernel)
  have hbody : ∀ raw ∈ [blank, bare], ¬ Closing .utf8 ⟨2, 2, 0⟩ raw := by
    unfold Closing
    decide +kernel
  have hclosing : Closing .utf8 ⟨2, 2, 0⟩ last := by
    unfold Closing
    decide +kernel
  obtain ⟨-, hmulti⟩ := (read_framed .utf8 _).2 ⟨2, 2, 0⟩ first _ hfirst (by decide +kernel)
  obtain ⟨-, hframe⟩ := hmulti (by decide +kernel)
  have hyields := Yields.line hblank (.line hbare (.nothing _))
  have hfinds := (hframe _ _ hyields hbody).1 last _ hlast hclosing
  have hreply : composed ⟨2, 2, 0⟩ (lineOf .utf8 first) ([blank, bare].map (lineOf .utf8))
      (lineOf .utf8 last) = ⟨⟨2, 2, 0⟩, "\uFFFD a 220 b"⟩ := by decide +kernel
  rwa [hreply] at hfinds

end Reply

end FtpControl
