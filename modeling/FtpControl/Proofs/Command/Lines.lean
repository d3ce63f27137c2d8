import FtpControl.Command
import FtpControl.Source
import FtpControl.Proofs.Text.Ascii

/-!
# Commands as lines

What is sent for a command is a line if the command has no line end in it, and otherwise it is
not. A server that reads line by line gets the commands one by one in the first case, and in the
second as many lines too many as there are line feeds in the commands.
-/

namespace FtpControl

/-- The lines of a stream, each with its end. What has no end is no line yet. -/
def lines : List UInt8 → List (List UInt8)
  | [] => []
  | b :: bytes =>
    if b = lineFeed then [b] :: lines bytes
    else match lines bytes with
      | [] => []
      | line :: rest => (b :: line) :: rest

/-- A line as a server expects it: a carriage return and a line feed end it, and it has no other
of the two. -/
def IsLine (bytes : List UInt8) : Prop :=
  ∃ front, bytes = front ++ [13, lineFeed] ∧ 13 ∉ front ∧ lineFeed ∉ front

section Lines

variable {line rest bytes : List UInt8}

/-- The lines are what reading line by line gives. -/
theorem lines_of_cutLine (h : cutLine bytes = some (line, rest)) :
    lines bytes = line :: lines rest := by
  induction bytes generalizing line rest with
  | nil => simp [cutLine] at h
  | cons b bytes ih =>
    unfold cutLine at h
    split_ifs at h with hb
    · cases h
      simp [lines, hb]
    · obtain ⟨⟨front, back⟩, hcut, heq⟩ := Option.map_eq_some_iff.mp h
      cases heq
      simp [lines, hb, ih hcut]

theorem IsLine.lines_append (h : IsLine line) (rest : List UInt8) :
    lines (line ++ rest) = line :: lines rest := by
  obtain ⟨front, rfl, -, hfront⟩ := h
  have hfeed : lineFeed ∉ front ++ [13] := by
    simp only [List.mem_append, List.mem_singleton, not_or]
    exact ⟨hfront, by decide⟩
  have hcut := cutLine_append hfeed rest
  simp only [List.append_assoc, List.cons_append, List.nil_append] at hcut ⊢
  exact lines_of_cutLine hcut

theorem lines_flatten {all : List (List UInt8)} (h : ∀ line ∈ all, IsLine line) :
    lines all.flatten = all := by
  induction all with
  | nil => rfl
  | cons line all ih =>
    rw [List.forall_mem_cons] at h
    rw [List.flatten_cons, h.1.lines_append, ih h.2]

theorem length_lines (bytes : List UInt8) : (lines bytes).length = bytes.count lineFeed := by
  induction bytes with
  | nil => rfl
  | cons b bytes ih =>
    by_cases hb : b = lineFeed
    · simp [lines, hb, ih]
    · rw [List.count_cons_of_ne hb, ← ih]
      simp only [lines, if_neg hb]
      cases lines bytes <;> rfl

end Lines

namespace Command

/-- Commands without a line end in them. -/
def OneLine (command : String) : Prop :=
  '\r' ∉ command.toList ∧ '\n' ∉ command.toList

theorem isLine_bytes_iff {command : String} : IsLine (bytes command) ↔ OneLine command := by
  have hreturn : 13 ∈ Text.encodeUtf8 command.toList ↔ '\r' ∈ command.toList :=
    Text.mem_encodeUtf8_iff (c := '\r') (by decide)
  have hfeed : lineFeed ∈ Text.encodeUtf8 command.toList ↔ '\n' ∈ command.toList :=
    Text.mem_encodeUtf8_iff (c := '\n') (by decide)
  rw [OneLine, ← hreturn, ← hfeed, bytes_eq]
  constructor
  · rintro ⟨front, heq, h⟩
    rwa [List.append_cancel_right heq]
  · intro h
    exact ⟨_, rfl, h⟩

theorem count_lineFeed_bytes (command : String) :
    (bytes command).count lineFeed = command.toList.count '\n' + 1 := by
  have hfeed : (Text.encodeUtf8 command.toList).count lineFeed = command.toList.count '\n' :=
    Text.count_encodeUtf8 (c := '\n') (by decide) command.toList
  rw [bytes_eq, List.count_append, hfeed]
  rfl

theorem count_lineFeed_flatten (commands : List String) :
    (commands.map bytes).flatten.count lineFeed =
      commands.length + (commands.map fun command => command.toList.count '\n').sum := by
  induction commands with
  | nil => rfl
  | cons command commands ih =>
    simp only [List.map_cons, List.flatten_cons, List.count_append, List.length_cons,
      List.sum_cons, ih, count_lineFeed_bytes]
    omega

end Command

/-- What is sent for these commands, flush by flush: each as it is and with a line end behind it,
which makes a line of it if and only if it has no line end in it. A server that reads it gets a
line for each command, and one more for each line feed in it. -/
structure Posted (commands : List String) (flushes : List (List UInt8)) : Prop where
  each : List.Forall₂ (fun command flush => flush = Text.encodeUtf8 command.toList ++ [13, 10] ∧
    (IsLine flush ↔ Command.OneLine command)) commands flushes
  length_lines : (lines flushes.flatten).length =
    flushes.length + (commands.map fun command => command.toList.count '\n').sum

theorem posted_bytes (commands : List String) :
    Posted commands (commands.map Command.bytes) := by
  constructor
  · rw [List.forall₂_map_right_iff, List.forall₂_same]
    intro command _
    exact ⟨Command.bytes_eq command, Command.isLine_bytes_iff⟩
  · rw [length_lines, Command.count_lineFeed_flatten, List.length_map]

/-- What is sent are lines, and at any time a server has got these lines and no others. -/
structure Framed (flushes : List (List UInt8)) : Prop where
  isLine : ∀ flush ∈ flushes, IsLine flush
  lines_take : ∀ k, lines (flushes.take k).flatten = flushes.take k

theorem framed_bytes_iff {commands : List String} :
    Framed (commands.map Command.bytes) ↔ ∀ command ∈ commands, Command.OneLine command := by
  constructor
  · intro h command hcommand
    exact Command.isLine_bytes_iff.mp (h.isLine _ (List.mem_map_of_mem hcommand))
  · intro h
    have hlines : ∀ flush ∈ commands.map Command.bytes, IsLine flush := by
      intro flush hflush
      obtain ⟨command, hcommand, rfl⟩ := List.mem_map.mp hflush
      exact Command.isLine_bytes_iff.mpr (h command hcommand)
    constructor
    · exact hlines
    · intro k
      exact lines_flatten fun flush hflush => hlines flush (List.mem_of_mem_take hflush)

end FtpControl
