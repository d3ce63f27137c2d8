import FtpControl.Reply.Reader
import FtpControl.Proofs.Text.Ascii

/-!
# Replies read back

How a server writes a reply: on one line, or on several with the code on the first and the
last. Each line ends in its own way, and its characters are written as UTF-8. The main
statement is that the reader gives back the replies of a stream one by one and leaves what
follows them.
-/

namespace FtpControl.Reply

/-- How a line ends. -/
inductive LineEnd where
  | crlf
  | lf
deriving DecidableEq, Repr

def LineEnd.chars : LineEnd → List Char
  | crlf => ['\r', '\n']
  | lf => ['\n']

/-- A text that stands on one line, with the end of that line. A bare line feed does not
follow a carriage return, which would belong to the end. -/
structure SentText where
  chars : Line
  ending : LineEnd
  oneLine : '\n' ∉ chars
  endsAsSaid : ending = .lf → chars.getLast? ≠ some '\r'

/-- A line that opens with the given characters. -/
def SentText.bytes (opening : List Char) (t : SentText) : List UInt8 :=
  Text.encodeUtf8 (opening ++ t.chars ++ t.ending.chars)

/-- A reply as a server writes it. No line inside a reply of several lines looks like its
last one. -/
inductive SentReply where
  | single (code : ReplyCode) (text : SentText)
  | multi (code : ReplyCode) (first : SentText) (body : List SentText) (last : SentText)
    (inside : ∀ t ∈ body, ¬ code.toList ++ [' '] <+: t.chars)

namespace SentReply

def bytes : SentReply → List UInt8
  | single code text => text.bytes (code.toList ++ [' '])
  | multi code first body last _ =>
    first.bytes (code.toList ++ ['-']) ++ body.flatMap (SentText.bytes []) ++
      last.bytes (code.toList ++ [' '])

/-- What a line inside a reply says: a code and a hyphen in front of it do not count. -/
def saying (code : ReplyCode) (t : SentText) : Line :=
  if code.toList ++ ['-'] <+: t.chars then t.chars.drop 4 else t.chars

/-- The reply that is meant. The pieces of a longer one are trimmed, and those that are not
blank stand with a space between each two. -/
def reply : SentReply → Reply
  | single code text => ⟨code, String.ofList text.chars⟩
  | multi code first body last _ =>
    let pieces := first.chars :: body.map (saying code) ++ [last.chars]
    ⟨code, String.ofList ([' '].intercalate ((pieces.map Text.trim).filter (· ≠ [])))⟩

end SentReply

/-! ## One line -/

/-- Only the line feed itself is written with the byte that ends a line. -/
theorem lineFeed_notMem_encodeUtf8 {cs : List Char} (h : '\n' ∉ cs) :
    lineFeed ∉ Text.encodeUtf8 cs :=
  fun hmem => h ((Text.mem_encodeUtf8_iff (c := '\n') (by decide)).mp hmem)

theorem cutLine_encodeUtf8 {cs : List Char} (h : '\n' ∉ cs) (rest : List UInt8) :
    cutLine (Text.encodeUtf8 (cs ++ ['\n']) ++ rest) =
      some (Text.encodeUtf8 (cs ++ ['\n']), rest) := by
  have he : Text.encodeUtf8 (cs ++ ['\n']) = Text.encodeUtf8 cs ++ [lineFeed] := by
    rw [Text.encodeUtf8, List.flatMap_append]
    rfl
  rw [he, List.append_assoc]
  exact cutLine_append (lineFeed_notMem_encodeUtf8 h) rest

theorem chopLineEnd_lf {cs : List Char} (h : '\n' ∉ cs) (hcr : cs.getLast? ≠ some '\r') :
    chopLineEnd (cs ++ ['\n']) = cs := by
  rw [List.getLast?_eq_head?_reverse] at hcr
  have hlf : '\n' ∉ cs.reverse := by simpa using h
  simp only [chopLineEnd, List.reverse_append, List.reverse_singleton, List.singleton_append]
  cases hr : cs.reverse with
  | nil => simpa using hr
  | cons c back =>
    have hc : c ≠ '\r' ∧ c ≠ '\n' := by
      simp only [hr, List.head?_cons, List.mem_cons, not_or] at hcr hlf
      exact ⟨fun he => hcr (he ▸ rfl), Ne.symm hlf.1⟩
    split
    · next heq => simp_all
    · have hd : List.dropWhile (fun c => c = '\r' || c = '\n') ('\n' :: c :: back) = c :: back := by
        simp [hc]
      rw [hd, ← hr, List.reverse_reverse]

/-- The next line of a stream that begins with a line as a server writes it. -/
theorem nextLine_bytes {opening : List Char} (h : '\n' ∉ opening)
    (hcr : opening.getLast? ≠ some '\r') (t : SentText) (rest : List UInt8) (ending : Ending) :
    Source.nextLine .utf8 ⟨t.bytes opening ++ rest, ending, none⟩ =
      (.ok (some (opening ++ t.chars)), ⟨rest, ending, none⟩) := by
  obtain ⟨front, hfront, hlf⟩ :
      ∃ front, opening ++ t.chars ++ t.ending.chars = front ++ ['\n'] ∧ '\n' ∉ front := by
    cases ht : t.ending with
    | crlf => exact ⟨opening ++ t.chars ++ ['\r'], by simp [LineEnd.chars], by simp [h, t.oneLine]⟩
    | lf => exact ⟨opening ++ t.chars, by simp [LineEnd.chars], by simp [h, t.oneLine]⟩
  have hchop : chopLineEnd (opening ++ t.chars ++ t.ending.chars) = opening ++ t.chars := by
    cases ht : t.ending with
    | crlf => exact chopLineEnd_crlf _
    | lf =>
      apply chopLineEnd_lf (by simp [h, t.oneLine])
      rw [List.getLast?_append]
      cases hl : t.chars.getLast? with
      | none => simpa using hcr
      | some c =>
        rw [Option.some_or, ← hl]
        exact t.endsAsSaid ht
  have hcut : cutLine (t.bytes opening ++ rest) = some (t.bytes opening, rest) := by
    rw [SentText.bytes, hfront]
    exact cutLine_encodeUtf8 hlf rest
  have hread : Source.readLine ⟨t.bytes opening ++ rest, ending, none⟩ =
      (.ok (t.bytes opening), ⟨rest, ending, none⟩) := by
    simp [Source.readLine, hcut]
  have hdecode : Text.decodeUtf8 (t.bytes opening) = opening ++ t.chars ++ t.ending.chars :=
    Text.decodeUtf8_encodeUtf8 _
  unfold Source.nextLine
  rw [hread]
  cases hb : t.bytes opening with
  | nil => exact absurd hb (append_of_cutLine hcut).2
  | cons b raw =>
    rw [hb] at hdecode
    simp only [Text.Encoding.decode, hdecode, hchop]

/-! ## One reply -/

theorem digitChar_ne_crlf (d : Fin 10) :
    ReplyCode.digitChar d ≠ '\n' ∧ ReplyCode.digitChar d ≠ '\r' := by
  revert d
  decide

theorem isDigit_digitChar (d : Fin 10) : Text.isDigit (ReplyCode.digitChar d) = true := by
  revert d
  decide +kernel

theorem ofParts_toList (code : ReplyCode) (text : Line) :
    ofParts code.toList text = .ok ⟨code, String.ofList text⟩ := by
  rw [ofParts, ReplyCode.ofList?_toList]

theorem readPieces_of_line {enc : Text.Encoding} {code line : Line} {src rest : Source}
    (h : src.nextLine enc = (.ok (some line), rest)) :
    readPieces enc code src =
      if closes code line then ⟨.ok [line.drop 4], rest, [line]⟩
      else
        let next := readPieces enc code rest
        ⟨next.outcome.map (stripCode code line :: ·), next.rest, line :: next.lines⟩ := by
  rw [readPieces]
  split
  · simp_all
  · simp_all
  · next hn =>
    rw [h] at hn
    cases hn
    rfl

/-- What the opening of a line with a code needs: it holds no end of line. -/
theorem opening_ne_crlf (code : ReplyCode) {sep : Char} (h : sep ≠ '\n' ∧ sep ≠ '\r') :
    '\n' ∉ code.toList ++ [sep] ∧ (code.toList ++ [sep]).getLast? ≠ some '\r' := by
  have hd := fun d => (digitChar_ne_crlf d).1.symm
  simp [ReplyCode.toList, hd, h.1.symm, h.2]

theorem opens_code (code : ReplyCode) (more : Line) : opens (code.toList ++ more) = true := by
  simp [opens, ReplyCode.toList, isDigit_digitChar]

theorem stripCode_eq_saying (code : ReplyCode) (t : SentText) :
    stripCode code.toList t.chars = SentReply.saying code t := by
  simp only [stripCode, SentReply.saying, List.isPrefixOf_iff_prefix]

/-- The lines inside a reply and its last line. -/
theorem readPieces_bytes (code : ReplyCode) (body : List SentText) (last : SentText)
    (inside : ∀ t ∈ body, ¬ code.toList ++ [' '] <+: t.chars) (tail : List UInt8)
    (ending : Ending) :
    let got := readPieces .utf8 code.toList
      ⟨body.flatMap (SentText.bytes []) ++ last.bytes (code.toList ++ [' ']) ++ tail, ending, none⟩
    got.outcome = .ok (body.map (SentReply.saying code) ++ [last.chars]) ∧
      got.rest = ⟨tail, ending, none⟩ := by
  induction body with
  | nil =>
    have hsep := opening_ne_crlf code (by decide : ' ' ≠ '\n' ∧ ' ' ≠ '\r')
    have hcloses : closes code.toList (code.toList ++ [' '] ++ last.chars) = true := by
      simp [closes]
    rw [List.flatMap_nil, List.nil_append,
      readPieces_of_line (nextLine_bytes hsep.1 hsep.2 last tail ending), if_pos hcloses]
    simp [ReplyCode.toList]
  | cons t body ih =>
    have ih := ih fun u hu => inside u (List.mem_cons_of_mem _ hu)
    have hcloses : ¬ closes code.toList t.chars = true := by
      rw [closes, List.isPrefixOf_iff_prefix]
      exact inside t List.mem_cons_self
    rw [List.flatMap_cons, List.append_assoc, List.append_assoc,
      ← List.append_assoc (body.flatMap _), readPieces_of_line (nextLine_bytes (by simp) (by simp) t _ ending), List.nil_append,
      if_neg hcloses]
    simp only [ih.1, ih.2, Except.map, stripCode_eq_saying, List.map_cons, List.cons_append,
      and_self]

/-- The separator behind the code decides how much more of the stream belongs to a reply. -/
theorem read_of_line {enc : Text.Encoding} {code : ReplyCode} {sep : Char} {text : Line}
    {src rest : Source} (h : src.nextLine enc = (.ok (some (code.toList ++ [sep] ++ text)), rest)) :
    read enc src =
      if sep = '-' then
        let body := readPieces enc code.toList rest
        ⟨body.outcome.map fun pieces => ⟨code, String.ofList (joinPieces (text :: pieces))⟩,
          body.rest, (code.toList ++ [sep] ++ text) :: body.lines⟩
      else ⟨.ok ⟨code, String.ofList text⟩, rest, [code.toList ++ [sep] ++ text]⟩ := by
  have htake : (code.toList ++ [sep] ++ text).take 3 = code.toList := rfl
  have hdrop : (code.toList ++ [sep] ++ text).drop 4 = text := rfl
  have hget : (code.toList ++ [sep] ++ text)[3]? = some sep := rfl
  have hopens : opens (code.toList ++ [sep] ++ text) = true := by
    rw [List.append_assoc, opens_code]
  generalize hline : code.toList ++ [sep] ++ text = line at *
  unfold read
  rw [h]
  cases line with
  | nil => simp [ReplyCode.toList] at hline
  | cons c cs =>
    simp only [hopens, hget, htake, hdrop, ofParts_toList, Bool.not_true, Bool.false_eq_true,
      if_false, Option.some.injEq]
    split_ifs
    · cases (readPieces enc code.toList rest).outcome <;> rfl
    · rfl

/-- A reply as a server writes it is read as the reply that it means, and no byte more. -/
theorem read_bytes (w : SentReply) (tail : List UInt8) (ending : Ending) :
    let got := read .utf8 ⟨w.bytes ++ tail, ending, none⟩
    got.outcome = .ok w.reply ∧ got.rest = ⟨tail, ending, none⟩ := by
  cases w with
  | single code text =>
    have hsep := opening_ne_crlf code (by decide : ' ' ≠ '\n' ∧ ' ' ≠ '\r')
    have hread := read_of_line (nextLine_bytes hsep.1 hsep.2 text tail ending)
    simp [SentReply.bytes, hread, SentReply.reply]
  | multi code first body last inside =>
    have hsep := opening_ne_crlf code (by decide : '-' ≠ '\n' ∧ '-' ≠ '\r')
    have hread := read_of_line (nextLine_bytes hsep.1 hsep.2 first
      (body.flatMap (SentText.bytes []) ++ last.bytes (code.toList ++ [' ']) ++ tail) ending)
    obtain ⟨houtcome, hrest⟩ := readPieces_bytes code body last inside tail ending
    rw [if_pos rfl] at hread
    simp only [SentReply.bytes, SentReply.reply, List.append_assoc] at hread houtcome hrest ⊢
    rw [hread, houtcome, hrest]
    simp [Except.map, joinPieces, Text.join_eq_intercalate]

/-- Reading as many replies as a stream begins with yields exactly these, in their order, and
leaves exactly what follows them. -/
theorem readMany_bytes (ws : List SentReply) (tail : List UInt8) (ending : Ending) :
    let got := readMany .utf8 ws.length ⟨ws.flatMap SentReply.bytes ++ tail, ending, none⟩
    got.1 = ws.map (fun w => .ok w.reply) ∧ got.2.1 = ⟨tail, ending, none⟩ := by
  induction ws with
  | nil => exact ⟨rfl, rfl⟩
  | cons w ws ih =>
    obtain ⟨houtcome, hrest⟩ := read_bytes w (ws.flatMap SentReply.bytes ++ tail) ending
    simp only [List.length_cons, List.flatMap_cons, List.append_assoc, readMany, List.map_cons]
    rw [houtcome, hrest]
    exact ⟨congrArg _ ih.1, ih.2⟩

end FtpControl.Reply
