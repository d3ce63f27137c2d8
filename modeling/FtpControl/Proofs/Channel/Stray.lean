import FtpControl.Proofs.Channel.Turns
import FtpControl.Proofs.Reply.Framing

/-!
# Lines that open no reply

A line that does not begin with a code costs itself alone and leaves the channel to the next line.
One sort of line costs more: digits of other scripts and a hyphen behind them are taken for the
opening of a longer reply, whose end is then looked for in the lines that follow.
-/

namespace FtpControl

namespace Reply

open Source

variable {enc : Text.Encoding} {src rest next : Source} {first : Line} {raw : List UInt8}

/-- A line that says something and does not begin with three digits. -/
def Stray (first : Line) : Prop :=
  first ≠ [] ∧ ¬ ((first.take 3).length = 3 ∧ ∀ c ∈ first.take 3, Text.isAsciiDigit c = true)

/-- A line that begins with three digits of any script and a hyphen. -/
def Decoy (first : Line) : Prop :=
  (first.take 3).length = 3 ∧ (∀ c ∈ first.take 3, Text.isDigit c = true) ∧ first[3]? = some '-'

/-- Nothing was found, the server being to blame, and the stream is left here. -/
def Reading.Rejects (got : Reading Reply) (rest : Source) : Prop :=
  (∃ f, got.outcome = .error f ∧ f.kind = .protocol) ∧ got.rest = rest

theorem opens_iff :
    opens first = true ↔ (first.take 3).length = 3 ∧ ∀ c ∈ first.take 3, Text.isDigit c = true := by
  simp only [opens, Bool.and_eq_true, decide_eq_true_eq, List.all_eq_true]

theorem ofParts_of_stray (h : Stray first) (text : Line) :
    ∃ f, ofParts (first.take 3) text = .error f ∧ f.kind = .protocol := by
  cases hparts : ofParts (first.take 3) text with
  | error f => exact ⟨f, rfl, kind_of_ofParts hparts⟩
  | ok r =>
    unfold ofParts at hparts
    split at hparts
    · next code hcode => exact absurd (ReplyCode.exists_ofList?_iff.1 ⟨code, hcode⟩) h.2
    · cases hparts

/-- What closes a reply is taken from the stream. -/
theorem length_of_readPieces {code : Line} {pieces : List Line}
    (h : (readPieces enc code src).outcome = .ok pieces) :
    (readPieces enc code src).rest.bytes.length < src.bytes.length := by
  revert pieces
  fun_induction readPieces enc code src with
  | case1 src why rest hn => rintro pieces ⟨⟩
  | case2 src rest hn => rintro pieces ⟨⟩
  | case3 src line rest hn hcloses => exact fun _ => length_of_nextLine hn
  | case4 src line rest hn hcloses next =>
    rename_i ih
    intro pieces h
    cases hnext : next.outcome with
    | error f =>
      rw [hnext] at h
      cases h
    | ok more => exact (ih hnext).trans (length_of_nextLine hn)

theorem rejects_of_stray (h : Stray first) (hdecoy : ¬ Decoy first) :
    (readBehind enc first src).Rejects src := by
  unfold readBehind
  dsimp only
  split_ifs with hopens hsep
  · exact ⟨⟨_, rfl, rfl⟩, rfl⟩
  · obtain ⟨hlength, hdigits⟩ := opens_iff.1 (by simpa using hopens)
    exact absurd ⟨hlength, hdigits, hsep⟩ hdecoy
  · exact ⟨ofParts_of_stray h _, rfl⟩

/-- The search for the end of a reply that no line can end. -/
theorem strays_of_decoy (enc : Text.Encoding) (src : Source) (h : Stray first)
    (hdecoy : Decoy first) :
    ∃ f, (readBehind enc first src).outcome = .error f ∧
      (f.kind = .io ∨ (readBehind enc first src).rest.bytes.length < src.bytes.length) := by
  obtain ⟨hlength, hdigits, hsep⟩ := hdecoy
  have hopens : opens first = true := opens_iff.2 ⟨hlength, hdigits⟩
  unfold readBehind
  dsimp only
  rw [if_neg (by simp [hopens]), if_pos hsep]
  dsimp only
  cases hbody : (readPieces enc (first.take 3) src).outcome with
  | error f => exact ⟨f, rfl, .inl (kind_of_readPieces hbody)⟩
  | ok pieces =>
    obtain ⟨f, hparts, -⟩ := ofParts_of_stray h (joinPieces (first.drop 4 :: pieces))
    exact ⟨f, hparts, .inr (length_of_readPieces hbody)⟩

theorem readBehind_rejects_iff (h : Stray first) :
    (readBehind enc first src).Rejects src ↔ ¬ Decoy first := by
  refine ⟨?_, rejects_of_stray h⟩
  rintro ⟨⟨f, hf, hkind⟩, hrest⟩ hdecoy
  obtain ⟨g, hg, hio | hless⟩ := strays_of_decoy enc src h hdecoy
  · rw [hf] at hg
    cases hg
    simp [hkind] at hio
  · simp [hrest] at hless

theorem read_of_stray (h : src.Gives raw next) (hstray : Stray (lineOf enc raw)) :
    read enc src = readBehind enc (lineOf enc raw) next :=
  read_of_first (h.nextLine enc) hstray.1

end Reply

namespace Channel

open Effect Live Reply Source

variable {n : Nat} {line : ControlLine} {s : Live Channel} {next : Source}

/-- A turn ends in a complaint about the server, and nothing has changed but the line. -/
def Withstands (turn : Turn) (n : Nat) (line : ControlLine) (s : Live Channel) : Prop :=
  (∃ f, (turn.perform.run s).1 = .error (.fault f) ∧ f.kind = .protocol) ∧
    Moved n line s (turn.perform.run s).2

/-- The channel withstands what the reader rejects, and nothing else. -/
theorem withstands_iff (turn : Turn) (hstate : s.self.state = .connected)
    (hwriter : s.self.writer = some n) (hreplies : s.self.replies = some n)
    (hdraws : turn.draws (s.net.lines n) = .ok line) :
    Withstands turn n { line with source := next } s ↔
      (Reply.read .utf8 line.source).Rejects next := by
  obtain ⟨t, hrun, hkept, -⟩ := run_turn turn hstate hwriter hreplies
  rw [Withstands, hrun, Turn.outcome_of_draws turn hdraws]
  rw [Turn.outcome_of_draws turn hdraws] at hkept
  have moved : ∀ f, line.outcome = .error f → f.kind = .protocol → Moved n line.behind s t := by
    intro f hf hkind
    have hsettled : Settled line.outcome := by simp [hf, hkind]
    obtain ⟨line', hdraws', -, hmoved⟩ := hkept hsettled
    rw [hdraws] at hdraws'
    cases hdraws'
    exact hmoved
  constructor
  · rintro ⟨⟨f, hf, hkind⟩, hmoved⟩
    have houtcome : line.outcome = .error f := by
      cases hline : line.outcome with
      | ok reply => simp [hline, Except.mapError] at hf
      | error g =>
        rw [hline] at hf
        cases hf
        rfl
    refine ⟨⟨f, houtcome, hkind⟩, ?_⟩
    have hsource := congrArg (fun lines => (lines n).source)
      ((moved f houtcome hkind).lines.symm.trans hmoved.lines)
    simpa [setAt_same, ControlLine.behind] using hsource
  · rintro ⟨⟨f, hf, hkind⟩, rfl⟩
    have houtcome : line.outcome = .error f := hf
    exact ⟨⟨f, by rw [houtcome]; rfl, hkind⟩, moved f houtcome hkind⟩

/-- A stray line costs exactly itself, and the channel goes on with the next one, if and only if it
is no decoy. A decoy costs further lines or, when none of them ends it, the transport. -/
theorem stray_costs_line {src next : Source} {raw : List UInt8} (h : src.Gives raw next) :
    (∀ enc, Stray (lineOf enc raw) →
      ((Reply.read enc src).Rejects next ↔ ¬ Decoy (lineOf enc raw)) ∧
        (Decoy (lineOf enc raw) → ∃ f, (Reply.read enc src).outcome = .error f ∧
          (f.kind = .io ∨ (Reply.read enc src).rest.bytes.length < next.bytes.length))) ∧
      (Stray (lineOf .utf8 raw) → ∀ (s : Live Channel) (turn : Turn) (n : Nat) (line : ControlLine),
        Reachable s → s.self.state = .connected → s.self.replies = some n →
          turn.draws (s.net.lines n) = .ok line → line.source = src →
            (Withstands turn n { line with source := next } s ↔ ¬ Decoy (lineOf .utf8 raw))) := by
  have behind : ∀ enc, Stray (lineOf enc raw) →
      ((Reply.read enc src).Rejects next ↔ ¬ Decoy (lineOf enc raw)) := by
    intro enc hstray
    rw [read_of_stray h hstray]
    exact readBehind_rejects_iff hstray
  refine ⟨fun enc hstray => ⟨behind enc hstray, fun hdecoy => ?_⟩, ?_⟩
  · rw [read_of_stray h hstray]
    exact strays_of_decoy enc next hstray hdecoy
  · rintro hstray s turn n line hs hstate hreplies hdraws rfl
    obtain ⟨m, hequipped, -⟩ := equipped_of_connected hs.lifecycle hstate
    obtain rfl : m = n := Option.some.inj (hequipped.2.2.2.symm.trans hreplies)
    rw [withstands_iff turn hstate hequipped.2.2.1 hreplies hdraws]
    exact behind .utf8 hstray

/-- The reply that follows is taken into the one that the decoy opened. -/
example : (Reply.read .utf8 ⟨Text.encodeUtf8 "１２３-x\r\n220 ok\r\n".toList, .silent, none⟩).outcome =
    .error (.readFailed timedOut) := by
  decide +kernel

def strayLine : List UInt8 :=
  Text.encodeUtf8 "２２０ ready\r\n".toList

/-- The channel of a caller who has connected to a server that goes on in digits of another
script. -/
def strayVisit : Live Channel :=
  let banner := greeting ++ strayLine ++ greeting
  ((Operation.connect ⟨some "ftp.test", 21⟩ 10000).perform.run
    ⟨{}, { script := { controls := [{ banner }] } }⟩).2

/-- Without a hyphen such digits cost one line. -/
theorem stray_costs_line_of_strayVisit :
    let next : Source := ⟨greeting, .silent, none⟩
    (Reply.read .utf8 ⟨strayLine ++ greeting, .silent, none⟩).Rejects next ∧
      Withstands .read 0 { strayVisit.net.lines 0 with source := next } strayVisit := by
  intro next
  have hgives : (⟨strayLine ++ greeting, .silent, none⟩ : Source).Gives strayLine next :=
    ⟨by simp [Undisturbed], .inl (by decide +kernel), rfl⟩
  have hline : lineOf .utf8 strayLine = ['２', '２', '０', ' ', 'r', 'e', 'a', 'd', 'y'] := by
    decide +kernel
  have hstray : Stray (lineOf .utf8 strayLine) := by
    rw [hline]
    refine ⟨by simp, fun h => ?_⟩
    have hdigit : Text.isAsciiDigit '２' = true := h.2 '２' (by simp)
    cases hdigit
  have hdecoy : ¬ Decoy (lineOf .utf8 strayLine) := by
    rw [hline]
    rintro ⟨-, -, hsep⟩
    simp at hsep
  obtain ⟨hread, hturn⟩ := stray_costs_line hgives
  refine ⟨(hread .utf8 hstray).1.2 hdecoy, ?_⟩
  apply (hturn hstray strayVisit .read 0 _ ?_ ?_ ?_ rfl ?_).2 hdecoy
  · exact .after _ (.start (Ledger.restrict_held _ _))
  · decide +kernel
  · decide +kernel
  · decide +kernel

end Channel

end FtpControl
