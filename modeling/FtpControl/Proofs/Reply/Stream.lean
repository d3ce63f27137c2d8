import FtpControl.Proofs.Reply.RoundTrip

/-!
# What a reply takes from a stream

A reply takes whole lines, one after the other, and no byte behind them. While the stream has not
ended, these lines are settled by the bytes that are there: what arrives later waits behind them.
-/

namespace FtpControl

/-- Lines that stand one after the other at the front of some bytes, and what is left behind them.
Only when the bytes are all that will ever come does a last line need no line feed. -/
inductive CutsOff (ended : Prop) : List UInt8 → List (List UInt8) → List UInt8 → Prop
  | nothing (bytes : List UInt8) : CutsOff ended bytes [] bytes
  | line {bytes raw next rest : List UInt8} {raws : List (List UInt8)}
      (h : cutLine bytes = some (raw, next)) (hnext : CutsOff ended next raws rest) :
      CutsOff ended bytes (raw :: raws) rest
  | last {bytes : List UInt8} (hended : ended) (h : lineFeed ∉ bytes) (hne : bytes ≠ []) :
      CutsOff ended bytes [bytes] []

/-- The lines and what is left behind them make up the bytes. -/
theorem CutsOff.flatten {ended : Prop} {bytes rest : List UInt8} {raws : List (List UInt8)}
    (h : CutsOff ended bytes raws rest) : raws.flatten ++ rest = bytes := by
  induction h with
  | nothing bytes => simp
  | line h hnext ih => simp [ih, (append_of_cutLine h).1]
  | last => simp

theorem CutsOff.of_nil {ended : Prop} {raws : List (List UInt8)} {rest : List UInt8}
    (h : CutsOff ended [] raws rest) : raws = [] ∧ rest = [] := by
  generalize hbytes : ([] : List UInt8) = bytes at h
  cases h with
  | nothing => exact ⟨rfl, hbytes ▸ rfl⟩
  | line hcut => simp [← hbytes, cutLine] at hcut
  | last _ _ hne => exact absurd hbytes.symm hne

theorem cutLine_extend {bytes line rest : List UInt8} (h : cutLine bytes = some (line, rest))
    (more : List UInt8) : cutLine (bytes ++ more) = some (line, rest ++ more) := by
  induction bytes generalizing line rest with
  | nil => simp [cutLine] at h
  | cons b bs ih =>
    rw [List.cons_append]
    unfold cutLine at h ⊢
    split_ifs at h ⊢ with hb
    · cases h
      rfl
    · obtain ⟨⟨l, r⟩, hcut, heq⟩ := Option.map_eq_some_iff.1 h
      cases heq
      simp [ih hcut]

namespace Source

/-- The same stream once more bytes have come, with another way to go on behind them. -/
def extend (src : Source) (more : List UInt8) (ending : Ending) : Source :=
  { src with bytes := src.bytes ++ more, ending }

theorem ending_readLine (src : Source) : src.readLine.2.ending = src.ending := by
  unfold readLine
  split
  · rfl
  · dsimp only
    split
    · rfl
    · split <;> simp_all

theorem readLine_extend {src rest : Source} {line : List UInt8} (hending : src.ending ≠ .eof)
    (h : src.readLine = (.ok line, rest)) (more : List UInt8) (ending : Ending) :
    (src.extend more ending).readLine = (.ok line, rest.extend more ending) := by
  unfold readLine at h ⊢
  unfold extend
  dsimp only
  split at h
  · cases h
  · dsimp only at h ⊢
    cases hcut : cutLine src.bytes with
    | some cut =>
      rw [hcut] at h
      rw [cutLine_extend hcut]
      cases h
      rfl
    | none =>
      rw [hcut] at h
      cases hend : src.ending with
      | eof => exact absurd hend hending
      | silent => simp [hend] at h
      | failing why => simp [hend] at h

theorem readLine_cases {src rest : Source} {line : List UInt8}
    (h : src.readLine = (.ok line, rest)) :
    cutLine src.bytes = some (line, rest.bytes) ∨
      (cutLine src.bytes = none ∧ src.ending = .eof ∧ line = src.bytes ∧ rest.bytes = []) := by
  unfold readLine at h
  split at h
  · cases h
  · dsimp only at h
    cases hcut : cutLine src.bytes with
    | some cut =>
      rw [hcut] at h
      cases h
      exact .inl rfl
    | none =>
      rw [hcut] at h
      cases hend : src.ending <;> rw [hend] at h <;> cases h
      exact .inr ⟨rfl, rfl, rfl, rfl⟩

variable {enc : Text.Encoding} {src rest : Source} {line : List Char}

/-- The line that these bytes are read as. -/
def lineOf (enc : Text.Encoding) (raw : List UInt8) : List Char :=
  chopLineEnd (enc.decode raw)

theorem nextLine_eq (enc : Text.Encoding) (src : Source) :
    src.nextLine enc =
      (src.readLine.1.map fun raw => if raw = [] then none else some (lineOf enc raw),
        src.readLine.2) := by
  unfold nextLine
  rcases src.readLine with ⟨why | raw, rest⟩
  · rfl
  · cases raw <;> rfl

theorem ending_nextLine (enc : Text.Encoding) (src : Source) :
    (src.nextLine enc).2.ending = src.ending := by
  rw [nextLine_eq]
  exact ending_readLine src

theorem nextLine_extend {line? : Option (List Char)} (hending : src.ending ≠ .eof)
    (h : src.nextLine enc = (.ok line?, rest)) (more : List UInt8) (ending : Ending) :
    (src.extend more ending).nextLine enc = (.ok line?, rest.extend more ending) := by
  rw [nextLine_eq] at h ⊢
  rcases hread : src.readLine with ⟨why | raw, next⟩
  · rw [hread] at h
    cases h
  · rw [readLine_extend hending hread]
    rw [hread] at h
    cases h
    rfl

/-- A line that is read is cut off the front of the stream. -/
theorem cutsOff_of_nextLine (h : src.nextLine enc = (.ok (some line), rest)) :
    ∃ raw, line = lineOf enc raw ∧
      (cutLine src.bytes = some (raw, rest.bytes) ∨
        (raw = src.bytes ∧ src.ending = .eof ∧ lineFeed ∉ raw ∧ raw ≠ [] ∧ rest.bytes = [])) := by
  rw [nextLine_eq] at h
  rcases hread : src.readLine with ⟨why | raw, next⟩
  · rw [hread] at h
    cases h
  rw [hread] at h
  simp only [Except.map, Prod.mk.injEq, Except.ok.injEq] at h
  obtain ⟨hline, rfl⟩ := h
  split_ifs at hline with hne
  cases hline
  refine ⟨raw, rfl, ?_⟩
  rcases readLine_cases hread with hcut | ⟨hcut, hend, rfl, hrest⟩
  · exact .inl hcut
  · exact .inr ⟨rfl, hend, cutLine_eq_none_iff.1 hcut, hne, hrest⟩

end Source

/-- Exactly three digits make a code. -/
theorem ReplyCode.exists_ofList?_iff {cs : List Char} :
    (∃ code, ofList? cs = some code) ↔
      cs.length = 3 ∧ ∀ c ∈ cs, Text.isAsciiDigit c = true := by
  constructor
  · rintro ⟨code, h⟩
    unfold ofList? at h
    split at h
    · split_ifs at h with hall
      exact ⟨rfl, by simpa using hall⟩
    · cases h
  · rintro ⟨hlength, hdigits⟩
    match cs, hlength with
    | [a, b, c], _ => exact ⟨_, dif_pos (by simpa using hdigits)⟩

namespace Reply

open Source

variable {enc : Text.Encoding} {code : Line} {src : Source}

/-! ## Where reading stops -/

theorem ending_readPieces (enc : Text.Encoding) (code : Line) (src : Source) :
    (readPieces enc code src).rest.ending = src.ending := by
  fun_induction readPieces enc code src with
  | case1 src why rest h => simpa [h] using ending_nextLine enc src
  | case2 src rest h => simpa [h] using ending_nextLine enc src
  | case3 src line rest h => simpa [h] using ending_nextLine enc src
  | case4 src line rest h hcloses next ih =>
    rw [ih]
    simpa [h] using ending_nextLine enc src

theorem ending_read (enc : Text.Encoding) (src : Source) :
    (read enc src).rest.ending = src.ending := by
  have hnext := ending_nextLine enc src
  unfold read
  split <;> rename_i h <;> rw [h] at hnext
  · exact hnext
  · exact hnext
  · exact hnext
  · dsimp only
    split_ifs
    · exact hnext
    · exact (ending_readPieces enc _ _).trans hnext
    · exact hnext

/-! ## How reading fails -/

theorem kind_of_readPieces {f : Fault} (h : (readPieces enc code src).outcome = .error f) :
    f.kind = .io := by
  fun_induction readPieces enc code src with
  | case1 src why rest hn =>
    cases h
    rfl
  | case2 src rest hn =>
    cases h
    rfl
  | case3 src line rest hn => cases h
  | case4 src line rest hn hcloses next ih =>
    apply ih
    cases houtcome : next.outcome with
    | ok pieces => simp [houtcome, Except.map] at h
    | error g =>
      rw [houtcome] at h
      cases h
      rfl

theorem kind_of_ofParts {text : Line} {f : Fault} (h : ofParts code text = .error f) :
    f.kind = .protocol := by
  unfold ofParts at h
  split at h
  · cases h
  · cases h
    rfl

theorem kind_of_read {f : Fault} (h : (read enc src).outcome = .error f) :
    f.kind = .io ∨ f.kind = .protocol := by
  unfold read at h
  split at h
  · cases h
    exact .inl rfl
  · cases h
    exact .inl rfl
  · cases h
    exact .inl rfl
  · dsimp only at h
    split_ifs at h
    · cases h
      exact .inr rfl
    · dsimp only at h
      cases hbody : (readPieces enc _ _).outcome with
      | error g =>
        rw [hbody] at h
        cases h
        exact .inl (kind_of_readPieces hbody)
      | ok pieces =>
        rw [hbody] at h
        exact .inr (kind_of_ofParts h)
    · exact .inr (kind_of_ofParts h)

/-- Whether reading came to an end at all, be it with a reply or with a line that is none. -/
def Settled {α : Type} (outcome : Except Fault α) : Prop :=
  ∀ f, outcome = .error f → f.kind ≠ .io

theorem settled_ok {α : Type} (a : α) : Settled (.ok a) := by
  rintro f ⟨⟩

@[simp] theorem settled_error_iff {α : Type} {f : Fault} :
    Settled (.error f : Except Fault α) ↔ f.kind ≠ .io := by
  constructor
  · exact fun h => h f rfl
  · rintro h g ⟨⟩
    exact h

theorem not_settled_iff {α : Type} {outcome : Except Fault α} :
    ¬ Settled outcome ↔ ∃ f, outcome = .error f ∧ f.kind = .io := by
  simp [Settled]

theorem settled_of_map {α β : Type} {outcome : Except Fault α} {f : α → β}
    (h : Settled (outcome.map f)) : Settled outcome := by
  rintro g rfl
  exact h g rfl

theorem settled_of_bind {α β : Type} {outcome : Except Fault α} {f : α → Except Fault β}
    (h : Settled (outcome.bind f)) : Settled outcome := by
  rintro g rfl
  exact h g rfl

/-! ## Later bytes -/

theorem readPieces_extend (hending : src.ending ≠ .eof)
    (h : Settled (readPieces enc code src).outcome) (more : List UInt8) (ending : Ending) :
    readPieces enc code (src.extend more ending) =
      { readPieces enc code src with
        rest := (readPieces enc code src).rest.extend more ending } := by
  fun_induction readPieces enc code src with
  | case1 src why rest hn => exact absurd rfl (h _ rfl)
  | case2 src rest hn => exact absurd rfl (h _ rfl)
  | case3 src line rest hn hcloses =>
    rw [readPieces_of_line (nextLine_extend hending hn more ending), if_pos hcloses]
  | case4 src line rest hn hcloses next ih =>
    have hrest : rest.ending ≠ .eof := by
      have hsame := ending_nextLine enc src
      rw [hn] at hsame
      rwa [hsame]
    rw [readPieces_of_line (nextLine_extend hending hn more ending), if_neg hcloses,
      ih hrest (settled_of_map h)]

/-- What a reply is by its first line and what follows that. -/
def readBehind (enc : Text.Encoding) (first : Line) (src : Source) : Reading Reply :=
  let code := first.take 3
  if !opens first then ⟨.error (.malformedLine (String.ofList first)), src, [first]⟩
  else if first[3]? = some '-' then
    let body := readPieces enc code src
    ⟨body.outcome.bind fun pieces => ofParts code (joinPieces (first.drop 4 :: pieces)),
      body.rest, first :: body.lines⟩
  else ⟨ofParts code (first.drop 4), src, [first]⟩

theorem read_of_first {first : Line} {rest : Source}
    (h : src.nextLine enc = (.ok (some first), rest)) (hne : first ≠ []) :
    read enc src = readBehind enc first rest := by
  unfold read
  rw [h]
  cases first with
  | nil => exact absurd rfl hne
  | cons c cs => rfl

theorem first_of_settled (h : Settled (read enc src).outcome) :
    ∃ first rest, src.nextLine enc = (.ok (some first), rest) ∧ first ≠ [] := by
  unfold read at h
  split at h
  · exact absurd rfl (h _ rfl)
  · exact absurd rfl (h _ rfl)
  · exact absurd rfl (h _ rfl)
  · next first rest hne hn => exact ⟨first, rest, hn, hne⟩

theorem read_extend (hending : src.ending ≠ .eof) (h : Settled (read enc src).outcome)
    (more : List UInt8) (ending : Ending) :
    read enc (src.extend more ending) =
      { read enc src with rest := (read enc src).rest.extend more ending } := by
  obtain ⟨first, rest, hn, hne⟩ := first_of_settled h
  have hsame := ending_nextLine enc src
  rw [hn] at hsame
  rw [read_of_first hn hne] at h
  rw [read_of_first hn hne, read_of_first (nextLine_extend hending hn more ending) hne]
  unfold readBehind at h ⊢
  dsimp only at h hsame ⊢
  split_ifs at h ⊢
  · rfl
  · rw [readPieces_extend (hsame ▸ hending) (settled_of_bind h) more ending]
  · rfl

/-! ## Lines taken -/

/-- The lines behind the first, and the first. -/
theorem cutsOff_line {line : Line} {lines : List Line} {rest last : Source}
    (h : src.nextLine enc = (.ok (some line), rest))
    (hrest : ∃ raws, CutsOff (src.ending = .eof) rest.bytes raws last.bytes ∧
      lines = raws.map (lineOf enc)) :
    ∃ raws, CutsOff (src.ending = .eof) src.bytes raws last.bytes ∧
      line :: lines = raws.map (lineOf enc) := by
  obtain ⟨raws, hrest, rfl⟩ := hrest
  obtain ⟨raw, rfl, hcut | ⟨rfl, hend, hfeed, hne, hnil⟩⟩ := cutsOff_of_nextLine h
  · exact ⟨raw :: raws, .line hcut hrest, rfl⟩
  · rw [hnil] at hrest
    obtain ⟨rfl, hlast⟩ := hrest.of_nil
    rw [hlast]
    exact ⟨[src.bytes], .last hend hfeed hne, rfl⟩

theorem cutsOff_of_readPieces (h : Settled (readPieces enc code src).outcome) :
    ∃ raws, CutsOff (src.ending = .eof) src.bytes raws (readPieces enc code src).rest.bytes ∧
      (readPieces enc code src).lines = raws.map (lineOf enc) := by
  fun_induction readPieces enc code src with
  | case1 src why rest hn => exact absurd rfl (h _ rfl)
  | case2 src rest hn => exact absurd rfl (h _ rfl)
  | case3 src line rest hn hcloses => exact cutsOff_line hn ⟨[], .nothing _, rfl⟩
  | case4 src line rest hn hcloses next ih =>
    have hsame := ending_nextLine enc src
    rw [hn] at hsame
    rw [hsame] at ih
    exact cutsOff_line hn (ih (settled_of_map h))

/-- A reading that comes to an end takes the lines that it reports, and nothing behind them. -/
theorem cutsOff_of_read (h : Settled (read enc src).outcome) :
    ∃ raws, CutsOff (src.ending = .eof) src.bytes raws (read enc src).rest.bytes ∧
      (read enc src).lines = raws.map (lineOf enc) := by
  obtain ⟨first, rest, hn, hne⟩ := first_of_settled h
  have hsame := ending_nextLine enc src
  rw [hn] at hsame
  rw [read_of_first hn hne] at h ⊢
  unfold readBehind at h ⊢
  dsimp only at h hsame ⊢
  split_ifs at h ⊢
  · exact cutsOff_line hn ⟨[], .nothing _, rfl⟩
  · have hbody := cutsOff_of_readPieces (settled_of_bind h)
    rw [hsame] at hbody
    exact cutsOff_line hn hbody
  · exact cutsOff_line hn ⟨[], .nothing _, rfl⟩

/-! ## One reply after the other -/

theorem readMany_snoc (enc : Text.Encoding) (n : Nat) (src : Source) :
    readMany enc (n + 1) src =
      let first := readMany enc n src
      let last := read enc first.2.1
      (first.1 ++ [last.outcome], last.rest, first.2.2 ++ last.lines) := by
  induction n generalizing src with
  | zero => simp [readMany]
  | succ n ih =>
    rw [readMany, ih]
    simp [readMany]

/-- As long as every reading comes to an end, later bytes wait behind the last one. -/
theorem readMany_extend {n : Nat} (hending : src.ending ≠ .eof)
    (h : ∀ outcome ∈ (readMany enc n src).1, Settled outcome) (more : List UInt8)
    (ending : Ending) :
    readMany enc n (src.extend more ending) =
      ((readMany enc n src).1, (readMany enc n src).2.1.extend more ending,
        (readMany enc n src).2.2) := by
  induction n generalizing src with
  | zero => rfl
  | succ n ih =>
    have hfirst : Settled (read enc src).outcome := h _ (List.mem_cons_self ..)
    have hsame := ending_read enc src
    rw [readMany, read_extend hending hfirst]
    dsimp only
    rw [ih (hsame ▸ hending) fun outcome hout => h outcome (List.mem_cons_of_mem _ hout)]
    rfl

end Reply

end FtpControl
