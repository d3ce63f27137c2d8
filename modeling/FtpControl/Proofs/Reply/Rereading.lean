import FtpControl.Proofs.Reply.Framing

/-!
# Replies written out again

Whatever bytes a reply was read from, its text stands on one line: a line feed is read only from
the byte that ends a line. Written on a line of its own, the reply is read as it was.
-/

namespace FtpControl

namespace Text

/-! ## Line feeds in decoded bytes -/

/-- A state that the reader comes into. Whatever byte follows in its range, the character under
way has left the line feed behind. -/
def Utf8State.Advanced : Utf8State → Prop
  | ready => True
  | inside _ value low _ => 0x80 ≤ low ∧ 0x10 ≤ value * 64 + (low - 0x80)

theorem eq_of_ofNat_eq_newline {n : Nat} (h : '\n' = Char.ofNat n) : n = 10 := by
  by_cases hn : n.isValidChar
  · have hchar : (Char.ofNat n).toNat = n := by
      rw [Char.ofNat, dif_pos hn]
      exact Char.toNat_val
    rw [← hchar, ← h]
    rfl
  · have hchar : Char.ofNat n = '\x00' := dif_neg hn
    rw [hchar] at h
    contradiction

theorem newline_ne_replacement : '\n' ≠ replacement := by decide

theorem Utf8State.advanced_start (b : Nat) : (start b).2.Advanced := by
  unfold start
  repeat' split
  all_goals simp only [Advanced]
  all_goals omega

theorem Utf8State.eq_of_newline_mem_start {b : Nat} (h : '\n' ∈ (start b).1) : b = 10 := by
  unfold start at h
  repeat' split at h
  all_goals simp only [List.mem_singleton, List.not_mem_nil] at h
  · exact eq_of_ofNat_eq_newline h
  · exact absurd h newline_ne_replacement
  · exact absurd h newline_ne_replacement

theorem Utf8State.advanced_step {s : Utf8State} (hs : s.Advanced) (b : Nat) :
    (s.step b).2.Advanced := by
  unfold step
  split
  · exact advanced_start b
  · next owed value low high =>
    obtain ⟨hlow, hvalue⟩ := hs
    split
    · split
      · trivial
      · exact ⟨le_refl _, by omega⟩
    · exact advanced_start b

theorem Utf8State.eq_of_newline_mem_step {s : Utf8State} (hs : s.Advanced) {b : Nat}
    (h : '\n' ∈ (s.step b).1) : b = 10 := by
  unfold step at h
  split at h
  · exact eq_of_newline_mem_start h
  · next owed value low high =>
    obtain ⟨hlow, hvalue⟩ := hs
    split at h
    · split at h
      · have hten := eq_of_ofNat_eq_newline (List.mem_singleton.1 h)
        omega
      · exact absurd h List.not_mem_nil
    · obtain heq | hstart := List.mem_cons.1 h
      · exact absurd heq newline_ne_replacement
      · exact eq_of_newline_mem_start hstart

theorem newline_notMem_decodeUtf8From {s : Utf8State} (hs : s.Advanced) {bytes : List UInt8}
    (h : lineFeed ∉ bytes) : '\n' ∉ decodeUtf8From s bytes := by
  induction bytes generalizing s with
  | nil => cases s <;> simp [decodeUtf8From, Utf8State.finish, newline_ne_replacement]
  | cons b bytes ih =>
    simp only [List.mem_cons, not_or] at h
    rw [decodeUtf8From, List.mem_append, not_or]
    refine ⟨fun hmem => h.1 ?_, ih (Utf8State.advanced_step hs _) h.2⟩
    exact (UInt8.toNat_inj.1 (Utf8State.eq_of_newline_mem_step hs hmem)).symm

/-- A line feed is no part of another character, also when it cuts one short. -/
theorem decodeUtf8From_lineFeed {s : Utf8State} (hs : s.Advanced) (bytes : List UInt8) :
    decodeUtf8From s (bytes ++ [lineFeed]) = decodeUtf8From s bytes ++ ['\n'] := by
  induction bytes generalizing s with
  | nil =>
    cases s with
    | ready => rfl
    | inside owed value low high =>
      have hlow : ¬ (low ≤ lineFeed.toNat ∧ lineFeed.toNat ≤ high) := by
        have := hs.1
        have : lineFeed.toNat = 10 := rfl
        omega
      simp only [List.nil_append, decodeUtf8From, Utf8State.step, if_neg hlow]
      rfl
  | cons b bytes ih =>
    rw [List.cons_append, decodeUtf8From, decodeUtf8From, ih (Utf8State.advanced_step hs _),
      List.append_assoc]

theorem notMem_trim {c : Char} {cs : List Char} (h : c ∉ cs) : c ∉ trim cs := by
  intro hmem
  rw [trim, trimEnd, List.mem_reverse] at hmem
  have hstart := List.mem_reverse.1 ((List.dropWhile_sublist _).subset hmem)
  exact h ((List.dropWhile_sublist _).subset hstart)

end Text

/-! ## Line feeds in lines -/

theorem exists_of_cutLine {bytes raw rest : List UInt8} (h : cutLine bytes = some (raw, rest)) :
    ∃ front, raw = front ++ [lineFeed] ∧ lineFeed ∉ front := by
  induction bytes generalizing raw rest with
  | nil => simp [cutLine] at h
  | cons b bytes ih =>
    unfold cutLine at h
    split_ifs at h with hb
    · cases h
      exact ⟨[], by rw [hb]; rfl, by simp⟩
    · obtain ⟨⟨l, r⟩, hcut, heq⟩ := Option.map_eq_some_iff.1 h
      cases heq
      obtain ⟨front, rfl, hfront⟩ := ih hcut
      exact ⟨b :: front, rfl, by simp [Ne.symm hb, hfront]⟩

theorem chopLineEnd_subset (cs : List Char) : chopLineEnd cs ⊆ cs := by
  unfold chopLineEnd
  split
  · next front hfront =>
    rw [← List.reverse_reverse cs, hfront]
    intro c hc
    simp_all
  · intro c hc
    exact List.mem_reverse.1 ((List.dropWhile_sublist _).subset (List.mem_reverse.1 hc))

theorem newline_notMem_chopLineEnd {cs : List Char} (h : '\n' ∉ cs) :
    '\n' ∉ chopLineEnd (cs ++ ['\n']) := by
  unfold chopLineEnd
  rw [List.reverse_append, List.reverse_singleton, List.singleton_append]
  split
  · next front hfront =>
    have hcs : cs.reverse = '\r' :: front := (List.cons.inj hfront).2
    intro hmem
    apply h
    rw [← List.mem_reverse, hcs]
    exact List.mem_cons_of_mem _ (List.mem_reverse.1 hmem)
  · rw [List.dropWhile_cons_of_pos (by simp), List.mem_reverse]
    intro hmem
    exact h (List.mem_reverse.1 ((List.dropWhile_sublist _).subset hmem))

namespace Source

/-- What is read as a line holds no line feed, which only its end could have held. -/
theorem newline_notMem_of_nextLine {src rest : Source} {line : List Char}
    (h : src.nextLine .utf8 = (.ok (some line), rest)) : '\n' ∉ line := by
  have hready : Text.Utf8State.ready.Advanced := trivial
  obtain ⟨raw, rfl, hcut | ⟨-, -, hfeed, -⟩⟩ := cutsOff_of_nextLine h
  · obtain ⟨front, rfl, hfront⟩ := exists_of_cutLine hcut
    have hdecode : Text.decodeUtf8 (front ++ [lineFeed]) = Text.decodeUtf8 front ++ ['\n'] :=
      Text.decodeUtf8From_lineFeed hready front
    rw [lineOf, Text.Encoding.decode, hdecode]
    exact newline_notMem_chopLineEnd (Text.newline_notMem_decodeUtf8From hready hfront)
  · intro hmem
    exact Text.newline_notMem_decodeUtf8From hready hfeed (chopLineEnd_subset _ hmem)

end Source

namespace Reply

open Source

variable {src : Source} {code : Line} {r : Reply}

/-! ## Line feeds in replies -/

theorem newline_notMem_drop {line : Line} (h : '\n' ∉ line) (n : Nat) : '\n' ∉ line.drop n :=
  fun hmem => h (List.mem_of_mem_drop hmem)

theorem newline_notMem_readPieces {pieces : List Line}
    (h : (readPieces .utf8 code src).outcome = .ok pieces) : ∀ piece ∈ pieces, '\n' ∉ piece := by
  revert pieces
  fun_induction readPieces .utf8 code src with
  | case1 src why rest hn =>
    rintro pieces ⟨⟩
  | case2 src rest hn =>
    rintro pieces ⟨⟩
  | case3 src line rest hn hcloses =>
    rintro pieces ⟨⟩
    simpa using newline_notMem_drop (newline_notMem_of_nextLine hn) 4
  | case4 src line rest hn hcloses next =>
    rename_i ih
    intro pieces h
    cases hnext : next.outcome with
    | error f =>
      rw [hnext] at h
      cases h
    | ok more =>
      rw [hnext] at h
      cases h
      have hline := newline_notMem_of_nextLine hn
      refine List.forall_mem_cons.2 ⟨?_, ih hnext⟩
      unfold stripCode
      split_ifs
      · exact newline_notMem_drop hline 4
      · exact hline

theorem newline_notMem_joinPieces {pieces : List Line} (h : ∀ piece ∈ pieces, '\n' ∉ piece) :
    '\n' ∉ joinPieces pieces := by
  apply Text.not_mem_join (by decide)
  intro piece hpiece
  obtain ⟨p, hp, rfl⟩ := List.mem_map.1 (List.mem_of_mem_filter hpiece)
  exact Text.notMem_trim (h p hp)

theorem text_of_ofParts {text : Line} (h : ofParts code text = .ok r) :
    r.text = String.ofList text := by
  unfold ofParts at h
  split at h
  · cases h
    rfl
  · cases h

theorem newline_notMem_text (h : (read .utf8 src).outcome = .ok r) : '\n' ∉ r.text.toList := by
  have hsettled : Settled (read .utf8 src).outcome := by
    rw [h]
    exact settled_ok r
  obtain ⟨first, rest, hn, hne⟩ := first_of_settled hsettled
  have hfirst := newline_notMem_drop (newline_notMem_of_nextLine hn) 4
  rw [read_of_first hn hne] at h
  unfold readBehind at h
  dsimp only at h
  split_ifs at h
  · dsimp only at h
    cases hbody : (readPieces .utf8 (first.take 3) rest).outcome with
    | error f => simp [hbody, Except.bind] at h
    | ok pieces =>
      rw [hbody] at h
      rw [text_of_ofParts h, String.toList_ofList]
      apply newline_notMem_joinPieces
      exact List.forall_mem_cons.2 ⟨hfirst, newline_notMem_readPieces hbody⟩
  · rw [text_of_ofParts h, String.toList_ofList]
    exact hfirst

/-! ## Writing and reading again -/

theorem isAsciiDigit_of_mem_code (code : ReplyCode) :
    ∀ c ∈ code.toList, Text.isAsciiDigit c = true := by
  have digit : ∀ d : Fin 10, Text.isAsciiDigit (ReplyCode.digitChar d) = true := by decide
  simp [ReplyCode.toList, digit]

/-- A reply that was read has a code of three digits and a text on one line, and written on a line
of its own it is read again, whatever follows. -/
theorem read_line_again {src : Source} {r : Reply} (h : (read .utf8 src).outcome = .ok r) :
    (r.code.toString.toList.length = 3 ∧
        ∀ c ∈ r.code.toString.toList, Text.isAsciiDigit c = true) ∧
      '\n' ∉ r.text.toList ∧
        ∀ (rest : List UInt8) (ending : Ending),
          (read .utf8 ⟨Text.encodeUtf8 (r.line.toList ++ ['\r', '\n']) ++ rest, ending, none⟩).Finds
            r ⟨rest, ending, none⟩ := by
  have htext := newline_notMem_text h
  rw [ReplyCode.toString, String.toList_ofList]
  refine ⟨⟨rfl, isAsciiDigit_of_mem_code r.code⟩, htext, fun rest ending => ?_⟩
  have hread := read_bytes (.single r.code ⟨r.text.toList, .crlf, htext, by simp⟩) rest ending
  have hbytes : SentReply.bytes (.single r.code ⟨r.text.toList, .crlf, htext, by simp⟩) =
      Text.encodeUtf8 (r.line.toList ++ ['\r', '\n']) := by
    simp [SentReply.bytes, SentText.bytes, LineEnd.chars, Reply.line, ReplyCode.toString]
  rw [hbytes] at hread
  simpa [Reading.Finds, SentReply.reply] using hread

/-- A byte that means nothing, a carriage return inside a line and a line of the code alone stand in
the text, which is then read as it is. -/
theorem read_line_again_lossy :
    let bytes := Text.encodeUtf8 "220-a".toList ++ [0xFF] ++
      Text.encodeUtf8 "\rb\r\r\n220\r\n220 c\r\n".toList
    let r : Reply := ⟨⟨2, 2, 0⟩, "a\uFFFD\rb 220 c"⟩
    (read .utf8 ⟨bytes, .eof, none⟩).outcome = .ok r ∧ '\n' ∉ r.text.toList ∧
      (read .utf8 ⟨Text.encodeUtf8 (r.line.toList ++ ['\r', '\n']) ++ bytes, .eof, none⟩).Finds r
        ⟨bytes, .eof, none⟩ := by
  intro bytes r
  have hread : (read .utf8 ⟨bytes, .eof, none⟩).outcome = .ok r := by decide +kernel
  obtain ⟨-, htext, hagain⟩ := read_line_again hread
  exact ⟨hread, htext, hagain bytes .eof⟩

end Reply

end FtpControl
