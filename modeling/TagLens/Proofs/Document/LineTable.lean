import TagLens.Proofs.Document.Delivery
import TagLens.Proofs.Document.Place

/-!
# The table of lines

A text has four views: its characters, its lines, the offsets at which the lines begin, and the
number of line feeds before an offset. Offsets and positions are turned into each other through
all of them, and this module says that they fit together.

* `prefix_drop_joinLines` — a line stands where the table says that it begins;
* `positionAt_eq_endPosition` — the position of an offset is the one behind the text before it,
  so that the two directions are inverse to each other (`offsetAt_positionAt`,
  `positionAt_offsetAt_iff`);
* `offsetAt_mono` — a position further on has an offset further on, since a line ends before the
  next one begins (`lineEnd_lt_lineStart`).

A buffer keeps a table of its own, and every revision of the buffer keeps it in step with the text
(`Buffer.InStep.reviseAll`). So what holds of the places of every text holds of every buffer,
whatever has happened to it (`Buffer.reviseAll_places`).
-/

namespace TagLens.Document

open Text (lines lineStarts lineStartsFrom joinLines joinLines_lines length_lines lines_ne_nil)

/-! ## Lines stand where the table says -/

theorem length_lineStartsFrom (offset : Nat) (table : List Text) :
    (lineStartsFrom offset table).length = table.length := by
  induction table generalizing offset with
  | nil => rfl
  | cons line more ih => rw [lineStartsFrom, List.length_cons, List.length_cons, ih]

theorem length_lineStarts (text : Text) : (lineStarts text).length = (lines text).length :=
  length_lineStartsFrom 0 (lines text)

/-- Every line stands in the joined text at its entry in the table. -/
theorem prefix_drop_joinLines {table : List Text} {index : Nat} (h : index < table.length) :
    table.getD index [] <+: (joinLines table).drop ((lineStartsFrom 0 table).getD index 0) := by
  induction table generalizing index with
  | nil => simp at h
  | cons line more ih =>
      cases index with
      | zero =>
          show line <+: joinLines (line :: more)
          cases more with
          | nil => exact List.prefix_refl line
          | cons next more => exact List.prefix_append line _
      | succ index =>
          have hmore : index < more.length := by simpa using h
          have hjoin : joinLines (line :: more) = (line ++ ['\n']) ++ joinLines more := by
            cases more with
            | nil => simp at hmore
            | cons next more => simp [joinLines]
          have hstart := getD_lineStartsFrom hmore (line ++ ['\n']).length
          simp only [List.length_append, List.length_singleton] at hstart
          -- the first line and its line feed are dropped, the rest is the table behind them
          rw [lineStartsFrom, List.getD_cons_succ, List.getD_cons_succ, Nat.zero_add, hstart, hjoin,
            ← List.drop_drop]
          have hdrop : ((line ++ ['\n']) ++ joinLines more).drop (line.length + 1)
              = joinLines more := List.drop_left' (by simp)
          rw [hdrop]
          exact ih hmore

/-- A line and its entry in the table cut the line out of the text. -/
theorem take_drop_lineStart {text line : Text} {index start : Nat}
    (hline : (lines text)[index]? = some line) (hstart : (lineStarts text)[index]? = some start) :
    (text.drop start).take line.length = line := by
  obtain ⟨hindex, -⟩ := List.getElem?_eq_some_iff.mp hline
  have hstands := prefix_drop_joinLines hindex
  rw [joinLines_lines, List.getD_eq_getElem?_getD, List.getD_eq_getElem?_getD, hline,
    show (lineStartsFrom 0 (lines text))[index]? = some start from hstart] at hstands
  exact (List.prefix_iff_eq_take.mp hstands).symm

/-- Every line has an entry in the table of starts. -/
theorem exists_lineStart {text : Text} {index : Nat} (h : index < (lines text).length) :
    ∃ line start, (lines text)[index]? = some line ∧ (lineStarts text)[index]? = some start := by
  have hstarts : index < (lineStarts text).length := by rwa [length_lineStarts]
  exact ⟨_, _, List.getElem?_eq_getElem h, List.getElem?_eq_getElem hstarts⟩

/-! ## From offsets to positions and back -/

/-- The position behind the front of a text is in range. -/
theorem inRange_endPosition (before rest : Text) :
    InRange (before ++ rest) (endPosition before) := by
  have hline : before.count '\n' < (lines (before ++ rest)).length := by
    rw [length_lines, List.count_append]
    omega
  -- the nearest place of that line has the same offset, so it has the same column
  let near := min (column before) ((lines (before ++ rest)).getD (before.count '\n') []).length
  have hoffset : offsetAt (before ++ rest) ⟨before.count '\n', near⟩ = before.length := by
    rw [← offsetAt_endPosition before rest, endPosition, offsetAt_natCast, offsetAt_natCast,
      if_pos hline, if_pos hline, Nat.min_assoc, Nat.min_self]
  obtain ⟨-, hcolumn⟩ := take_offsetAt hline (Nat.min_le_right _ _)
  rw [hoffset, List.take_left] at hcolumn
  apply inRange_natCast.mpr
  refine ⟨hline, ?_⟩
  omega

theorem length_take_clampOffset (text : Text) (offset : Int) :
    (text.take (clampOffset text offset)).length = clampOffset text offset := by
  rw [List.length_take, clampOffset]
  omega

/-- **From an offset to its position**: it is the position behind the text before the offset. -/
theorem positionAt_eq_endPosition (text : Text) (offset : Int) :
    positionAt text offset = endPosition (text.take (clampOffset text offset)) := by
  let before := text.take (clampOffset text offset)
  have hlength : before.length = clampOffset text offset := length_take_clampOffset text offset
  have hsplit : before ++ text.drop (clampOffset text offset) = text := List.take_append_drop _ _
  have hoffset := offsetAt_endPosition before (text.drop (clampOffset text offset))
  have hrange := inRange_endPosition before (text.drop (clampOffset text offset))
  rw [hsplit] at hoffset hrange
  -- inside its line the position is not moved, so its column is what is left of the offset
  obtain ⟨hline, hcolumn⟩ := inRange_natCast.mp hrange
  rw [endPosition, offsetAt_natCast, if_pos hline, Nat.min_eq_left hcolumn, hlength] at hoffset
  rw [positionAt_eq, endPosition, Position.mk.injEq]
  refine ⟨rfl, ?_⟩
  show (clampOffset text offset : Int) - ((lineStarts text).getD (before.count '\n') 0 : Int)
    = column before
  omega

theorem inRange_positionAt (text : Text) (offset : Int) :
    InRange text (positionAt text offset) := by
  have hrange := inRange_endPosition (text.take (clampOffset text offset))
    (text.drop (clampOffset text offset))
  rwa [List.take_append_drop, ← positionAt_eq_endPosition] at hrange

theorem offsetAt_positionAt (text : Text) (offset : Int) :
    offsetAt text (positionAt text offset) = clampOffset text offset := by
  have hoffset := offsetAt_endPosition (text.take (clampOffset text offset))
    (text.drop (clampOffset text offset))
  rw [List.take_append_drop, length_take_clampOffset] at hoffset
  rw [positionAt_eq_endPosition, hoffset]

theorem clampOffset_natCast {text : Text} {offset : Nat} (h : offset ≤ text.length) :
    clampOffset text offset = offset := by
  rw [clampOffset, Int.toNat_natCast, Nat.min_eq_left h]

/-- **From a position to its offset and back**: exactly the positions in range come back. -/
theorem positionAt_offsetAt_iff (text : Text) (position : Position) :
    positionAt text (offsetAt text position) = position ↔ InRange text position := by
  constructor
  · intro hsame
    rw [← hsame]
    exact inRange_positionAt text _
  · intro hrange
    rw [positionAt_eq_endPosition, clampOffset_natCast hrange.offsetAt_le,
      hrange.endPosition_take]

/-- A text within the bounds has no position beyond them. -/
theorem bounded_positionAt {text : Text} (h : text.length ≤ 2147483647) (offset : Int) :
    (positionAt text offset).bounded = .ok (positionAt text offset) := by
  rw [positionAt_eq_endPosition]
  apply bounded_endPosition
  exact Nat.le_trans (List.length_take_le' _ _) h

/-! ## The order of positions -/

/-- The first position does not follow the second: it stands on an earlier line, or on the same
line and not at a later character. -/
def Position.Precedes (first second : Position) : Prop :=
  first.line < second.line ∨ first.line = second.line ∧ first.character ≤ second.character

instance (first second : Position) : Decidable (first.Precedes second) :=
  inferInstanceAs (Decidable (_ ∨ _))

/-- A line ends before any later one begins. -/
theorem lineEnd_lt_lineStart {table : List Text} {index later : Nat} (hlt : index < later)
    (hlater : later < table.length) :
    (lineStartsFrom 0 table).getD index 0 + (table.getD index []).length
      < (lineStartsFrom 0 table).getD later 0 := by
  induction table generalizing index later with
  | nil => simp at hlater
  | cons line more ih =>
      obtain ⟨later, rfl⟩ : ∃ before, later = before + 1 := ⟨later - 1, by omega⟩
      have hmore : later < more.length := by simpa using hlater
      have hstart := getD_lineStartsFrom hmore (0 + line.length + 1)
      cases index with
      | zero =>
          simp only [lineStartsFrom, List.getD_cons_zero, List.getD_cons_succ]
          omega
      | succ index =>
          have hindex : index < later := by omega
          have hshift := getD_lineStartsFrom (Nat.lt_trans hindex hmore) (0 + line.length + 1)
          have hrest := ih hindex hmore
          simp only [lineStartsFrom, List.getD_cons_succ]
          omega

section

variable {text : Text} {position : Position}

/-- On a line of the text, with a line before the first taken for the first. -/
theorem offsetAt_of_lt (h : position.line < (lines text).length) :
    offsetAt text position
      = (lineStarts text).getD position.line.toNat 0
        + min position.character.toNat ((lines text).getD position.line.toNat []).length := by
  rw [offsetAt_eq, if_neg (by omega)]

/-- What is looked up for the offset of a position stands in the tables. -/
theorem exists_offsetAt_eq (h : position.line < (lines text).length) :
    ∃ line start, (lines text)[position.line.toNat]? = some line
      ∧ (lineStarts text)[position.line.toNat]? = some start
      ∧ offsetAt text position = start + min position.character.toNat line.length := by
  have hpos : 0 < (lines text).length := List.length_pos_of_ne_nil (lines_ne_nil text)
  have hindex : position.line.toNat < (lines text).length := by omega
  obtain ⟨line, start, hline, hstart⟩ := exists_lineStart hindex
  refine ⟨line, start, hline, hstart, ?_⟩
  rw [offsetAt_of_lt h, List.getD_eq_getElem?_getD, List.getD_eq_getElem?_getD, hline, hstart]
  rfl

end

/-- And so does what is looked up for the position of an offset. -/
theorem exists_positionAt_eq (text : Text) (offset : Int) :
    ∃ (line start : Nat), line = (text.take (clampOffset text offset)).count '\n'
      ∧ (lineStarts text)[line]? = some start
      ∧ positionAt text offset = ⟨line, (clampOffset text offset : Int) - start⟩ := by
  have hsub : (text.take (clampOffset text offset)).count '\n' ≤ text.count '\n' :=
    (List.take_sublist _ _).count_le _
  have hline : (text.take (clampOffset text offset)).count '\n' < (lines text).length := by
    rw [length_lines]
    omega
  obtain ⟨-, start, -, hstart⟩ := exists_lineStart hline
  refine ⟨_, start, rfl, hstart, ?_⟩
  rw [positionAt_eq, List.getD_eq_getElem?_getD, hstart]
  rfl

/-- **Offsets follow positions**, where lines are not negative. -/
theorem offsetAt_mono {text : Text} {first second : Position} (hnonneg : 0 ≤ first.line)
    (h : first.Precedes second) : offsetAt text first ≤ offsetAt text second := by
  by_cases hlast : (lines text).length ≤ second.line
  · -- behind the last line there is nothing but the end of the text
    have hend : offsetAt text second = text.length := by rw [offsetAt_eq, if_pos hlast]
    rw [hend]
    exact offsetAt_le_length text first
  · have hsecond : second.line < (lines text).length := by omega
    rcases h with hline | ⟨hline, hcharacter⟩
    · have hfirst : first.line < (lines text).length := by omega
      have hlines : (lineStarts text).getD first.line.toNat 0
          + ((lines text).getD first.line.toNat []).length
            < (lineStarts text).getD second.line.toNat 0 :=
        lineEnd_lt_lineStart (by omega) (by omega)
      rw [offsetAt_of_lt hfirst, offsetAt_of_lt hsecond]
      omega
    · have hfirst : first.line < (lines text).length := by omega
      rw [offsetAt_of_lt hfirst, offsetAt_of_lt hsecond, hline]
      omega

/-- A range whose ends are in order is replaced without exchanging them. -/
theorem Buffer.applyChange_of_le {buffer : Buffer} {range : Range}
    (h : buffer.offsetAt range.start ≤ buffer.offsetAt range.stop) (replacement : Text) :
    buffer.applyChange ⟨replacement, some range⟩
      = buffer.setText (buffer.text.take (buffer.offsetAt range.start) ++ replacement
        ++ buffer.text.drop (buffer.offsetAt range.stop)) := by
  simp only [applyChange, Nat.min_eq_left h, Nat.max_eq_right h]

/-! ## Everything that may happen to a buffer -/

/-- What may happen to a buffer: its text is set anew, or a batch of edits is delivered. -/
inductive Revision where
  | update (text : Text) (version : Int)
  | deliver (batch : Batch)
  deriving DecidableEq, Repr

namespace Buffer

def revise (buffer : Buffer) : Revision → Buffer
  | .update text version => buffer.update text version
  | .deliver batch => buffer.deliver batch

def reviseAll (buffer : Buffer) (revisions : List Revision) : Buffer :=
  revisions.foldl revise buffer

/-- **One revision keeps a buffer in step.** -/
theorem InStep.revise {buffer : Buffer} (h : buffer.InStep) (revision : Revision) :
    (buffer.revise revision).InStep := by
  cases revision with
  | update text version => exact inStep_update buffer text version
  | deliver batch => exact h.edit batch.changes batch.version

/-- **And so does any number of them.** -/
theorem InStep.reviseAll {buffer : Buffer} (h : buffer.InStep) (revisions : List Revision) :
    (buffer.reviseAll revisions).InStep := by
  induction revisions generalizing buffer with
  | nil => exact h
  | cons revision rest ih => exact ih (h.revise revision)

/-- **Offsets and positions are inverse to each other** through the table that a buffer keeps,
whatever has happened to it since it was opened and even in the middle of a batch, of which the
edits `pending` have been applied, as long as its text is within the protocol's bounds. The table
cuts the lines out of the text, and joined they are the text. An offset has a position within the
bounds, which leads back to the offset, moved to the nearer end of the text; a position leads to an
offset of the text, and back to itself exactly when it is in range. Positions in order have offsets
in order, so the ends of a range in order are not exchanged by an edit. And whatever is looked up in
the table stands there. -/
theorem reviseAll_places (uri : String) (text : Text) (version : Int) (revisions : List Revision)
    (pending : List Change)
    (hsize : (((Buffer.new uri text version).reviseAll revisions).applyAll pending).text.length
      ≤ 2147483647) :
    let buffer := ((Buffer.new uri text version).reviseAll revisions).applyAll pending
    ((∀ (index start : Nat) (line : Text), buffer.lines[index]? = some line →
          buffer.lineOffsets[index]? = some start →
          (buffer.text.drop start).take line.length = line)
        ∧ buffer.lineOffsets.length = buffer.lines.length
        ∧ joinLines buffer.lines = buffer.text)
      ∧ (∀ offset : Int, (buffer.positionAt offset).bounded = .ok (buffer.positionAt offset)
        ∧ (buffer.offsetAt (buffer.positionAt offset) : Int)
          = min (max offset 0) buffer.text.length)
      ∧ (∀ position, buffer.offsetAt position ≤ buffer.text.length
        ∧ (buffer.positionAt (buffer.offsetAt position) = position ↔ buffer.InRange position))
      ∧ (∀ range : Range, 0 ≤ range.start.line → range.start.Precedes range.stop →
        buffer.offsetAt range.start ≤ buffer.offsetAt range.stop
          ∧ ∀ replacement, buffer.applyChange ⟨replacement, some range⟩
              = buffer.setText (buffer.text.take (buffer.offsetAt range.start) ++ replacement
                ++ buffer.text.drop (buffer.offsetAt range.stop)))
      ∧ (∀ position : Position, position.line < buffer.lines.length →
        ∃ line start, buffer.lines[position.line.toNat]? = some line
          ∧ buffer.lineOffsets[position.line.toNat]? = some start
          ∧ buffer.offsetAt position = start + min position.character.toNat line.length)
      ∧ ∀ offset : Int, ∃ (line start : Nat),
          line = (buffer.text.take (clampOffset buffer.text offset)).count '\n'
          ∧ buffer.lineOffsets[line]? = some start
          ∧ buffer.positionAt offset
            = ⟨line, (clampOffset buffer.text offset : Int) - start⟩ := by
  intro buffer
  -- the revisions and the pending edits have kept the table in step with the text
  have hstep : buffer.InStep := ((inStep_new uri text version).reviseAll revisions).applyAll pending
  rw [hstep.lines_eq, hstep.lineOffsets_eq]
  refine ⟨⟨?_, length_lineStarts buffer.text, joinLines_lines buffer.text⟩, ?_, ?_, ?_, ?_, ?_⟩
  · intro index start line hline hstart
    exact take_drop_lineStart hline hstart
  · intro offset
    rw [hstep.positionAt_eq, hstep.offsetAt_eq, offsetAt_positionAt, clampOffset]
    refine ⟨bounded_positionAt hsize offset, ?_⟩
    omega
  · intro position
    refine ⟨hstep.offsetAt_le_length position, ?_⟩
    rw [hstep.offsetAt_eq, hstep.positionAt_eq, hstep.inRange_iff]
    exact positionAt_offsetAt_iff buffer.text position
  · intro range hnonneg hprecedes
    have hle : buffer.offsetAt range.start ≤ buffer.offsetAt range.stop := by
      rw [hstep.offsetAt_eq, hstep.offsetAt_eq]
      exact offsetAt_mono hnonneg hprecedes
    exact ⟨hle, applyChange_of_le hle⟩
  · intro position hline
    rw [hstep.offsetAt_eq]
    exact exists_offsetAt_eq hline
  · intro offset
    rw [hstep.positionAt_eq]
    exact exists_positionAt_eq buffer.text offset

/-- A text with a carriage return, which is a column of its line. -/
def draft : Buffer := Buffer.new "draft" "ab\r\n".toList 1

/-- The text is set anew, a range over three lines is replaced by two lines, and a late batch
arrives. -/
def redrafts : List Revision :=
  [.update "x\n\ny".toList 5, .deliver ⟨[⟨"1\n2".toList, some ⟨⟨0, 1⟩, ⟨2, 0⟩⟩⟩], 6⟩,
    .deliver ⟨[⟨[], none⟩], 6⟩]

/-- The first edit of the next batch brings a third line. -/
def pendingEdit : Change := ⟨"\n".toList, some ⟨⟨9, 9⟩, ⟨9, 9⟩⟩⟩

theorem reviseAll_places_draft :
    let redrafted := (draft.reviseAll redrafts).applyAll [pendingEdit]
    redrafted.text = "x1\n2y\n".toList
      ∧ redrafted.lineOffsets = [0, 3, 6]
      ∧ redrafted.text.length ≤ 2147483647
      ∧ (redrafted.offsetAt (redrafted.positionAt 99) : Int) = 6
      ∧ redrafted.positionAt (redrafted.offsetAt ⟨-1, 9⟩) ≠ ⟨-1, 9⟩ := by
  intro redrafted
  have htext : redrafted.text = "x1\n2y\n".toList := by decide
  have hsize : redrafted.text.length ≤ 2147483647 := by
    rw [htext]
    decide
  obtain ⟨-, hoffsets, hpositions, -⟩ :=
    reviseAll_places "draft" "ab\r\n".toList 1 redrafts [pendingEdit] hsize
  refine ⟨htext, by decide, hsize, (hoffsets 99).2.trans (by decide), ?_⟩
  intro hsame
  exact absurd ((hpositions ⟨-1, 9⟩).2.mp hsame) (by decide)

end Buffer
end TagLens.Document
