import Mathlib.Data.List.TakeWhile
import TagLens.Proofs.Document.StoredTable
import TagLens.Proofs.Text.Search

/-!
# Positions and offsets

A position is turned into an offset through the table of lines. The first part takes a text one
character at a time: a line feed moves everything behind it one line down, any other character
moves the rest of the first line by one column.

`endPosition` goes the other way and looks at the text before an offset only. The two are inverse
to each other on the positions in range:

* `offsetAt_endPosition` — the position behind a text has the length of the text as its offset,
  whatever follows;
* `InRange.endPosition_take` — a position in range is the one behind the text before its offset.
-/

namespace TagLens.Document

open Text (lines lineStarts lineStartsFrom lines_newline lines_cons lines_ne_nil)

/-! ## Offsets, one character at a time -/

theorem getD_lineStartsFrom {table : List Text} {index : Nat} (h : index < table.length)
    (offset : Nat) :
    (lineStartsFrom offset table).getD index 0
      = offset + (lineStartsFrom 0 table).getD index 0 := by
  induction table generalizing index offset with
  | nil => simp at h
  | cons line more ih =>
      cases index with
      | zero => simp [lineStartsFrom]
      | succ index =>
          have hmore : index < more.length := by simpa using h
          have hhere := ih hmore (offset + line.length + 1)
          have hzero := ih hmore (0 + line.length + 1)
          simp only [lineStartsFrom, List.getD_cons_succ]
          omega

theorem offsetAt_natCast (text : Text) (line column : Nat) :
    offsetAt text ⟨line, column⟩
      = if line < (lines text).length then
          (lineStarts text).getD line 0 + min column ((lines text).getD line []).length
        else text.length := by
  rw [offsetAt_eq]
  by_cases h : line < (lines text).length
  · rw [if_pos h, if_neg (by simpa using h)]
    simp
  · rw [if_neg h, if_pos (by simpa using h)]

/-- Behind a line feed everything is one line further down. -/
theorem offsetAt_newline_succ (rest : Text) (line column : Nat) :
    offsetAt ('\n' :: rest) ⟨(line + 1 : Nat), column⟩ = offsetAt rest ⟨line, column⟩ + 1 := by
  rw [offsetAt_natCast, offsetAt_natCast, lineStarts, lineStarts, lines_newline]
  by_cases h : line < (lines rest).length
  · have hstart := getD_lineStartsFrom h 1
    simp only [List.length_cons, Nat.add_lt_add_iff_right, h, if_true, lineStartsFrom,
      List.getD_cons_succ, List.length_nil, Nat.zero_add]
    omega
  · simp [h]

/-- Any other character moves the rest of the first line by a column. -/
theorem offsetAt_cons_zero {c : Char} (hc : c ≠ '\n') (rest : Text) (column : Nat) :
    offsetAt (c :: rest) ⟨(0 : Nat), (column + 1 : Nat)⟩
      = offsetAt rest ⟨(0 : Nat), column⟩ + 1 := by
  obtain ⟨line, more, hlines⟩ := List.exists_cons_of_ne_nil (lines_ne_nil rest)
  rw [offsetAt_natCast, offsetAt_natCast, lineStarts, lineStarts, lines_cons hc hlines, hlines]
  simp [lineStartsFrom]

theorem offsetAt_cons_succ {c : Char} (hc : c ≠ '\n') (rest : Text) (line column : Nat) :
    offsetAt (c :: rest) ⟨(line + 1 : Nat), column⟩
      = offsetAt rest ⟨(line + 1 : Nat), column⟩ + 1 := by
  obtain ⟨first, more, hlines⟩ := List.exists_cons_of_ne_nil (lines_ne_nil rest)
  rw [offsetAt_natCast, offsetAt_natCast, lineStarts, lineStarts, lines_cons hc hlines, hlines]
  by_cases h : line < more.length
  · have hleft := getD_lineStartsFrom h ((c :: first).length + 1)
    have hright := getD_lineStartsFrom h (first.length + 1)
    simp [lineStartsFrom, h] at hleft hright ⊢
    omega
  · simp [h]

theorem offsetAt_zero (text : Text) : offsetAt text ⟨(0 : Nat), (0 : Nat)⟩ = 0 := by
  obtain ⟨line, more, hlines⟩ := List.exists_cons_of_ne_nil (lines_ne_nil text)
  rw [offsetAt_natCast, lineStarts, hlines]
  simp [lineStartsFrom]

/-! ## The position behind a text -/

/-- The number of characters behind the last line feed of a text. -/
def column (before : Text) : Nat := (before.reverse.takeWhile (· != '\n')).length

/-- The position right behind a text: the number of its line feeds and its last column. -/
def endPosition (before : Text) : Position := ⟨before.count '\n', column before⟩

theorem column_of_not_mem {before : Text} (h : '\n' ∉ before) : column before = before.length := by
  have hall : before.reverse.takeWhile (· != '\n') = before.reverse := by
    rw [List.takeWhile_eq_self_iff]
    intro c hc
    have hne : c ≠ '\n' := by
      rintro rfl
      exact h (List.mem_reverse.mp hc)
    simp [hne]
  rw [column, hall, List.length_reverse]

theorem column_cons_of_mem {before : Text} (h : '\n' ∈ before) (c : Char) :
    column (c :: before) = column before := by
  obtain ⟨last, first, hsplit, hlast⟩ := List.eq_append_cons_of_mem (List.mem_reverse.mpr h)
  rw [column, column, List.reverse_cons, hsplit, List.append_assoc, List.cons_append,
    Text.takeWhile_ne_append hlast, Text.takeWhile_ne_append hlast]

theorem column_newline (before : Text) : column ('\n' :: before) = column before := by
  by_cases h : '\n' ∈ before
  · exact column_cons_of_mem h '\n'
  · have hreverse : '\n' ∉ before.reverse := by simpa using h
    rw [column_of_not_mem h, column, List.reverse_cons, Text.takeWhile_ne_append hreverse,
      List.length_reverse]

/-- **From a text to its end**: the position behind a text has the length of the text as its
offset, whatever follows. -/
theorem offsetAt_endPosition (before rest : Text) :
    offsetAt (before ++ rest) (endPosition before) = before.length := by
  induction before with
  | nil => exact offsetAt_zero rest
  | cons c before ih =>
      rw [endPosition] at ih ⊢
      rw [List.cons_append, List.length_cons, ← ih]
      by_cases hc : c = '\n'
      · subst hc
        rw [column_newline, List.count_cons_self]
        exact offsetAt_newline_succ _ _ _
      · rw [List.count_cons_of_ne hc]
        by_cases h : '\n' ∈ before
        · -- the last line begins behind the character
          obtain ⟨line, hline⟩ : ∃ line, before.count '\n' = line + 1 :=
            Nat.exists_eq_add_one.mpr (List.count_pos_iff.mpr h)
          rw [column_cons_of_mem h, hline]
          exact offsetAt_cons_succ hc _ _ _
        · have hcons : '\n' ∉ c :: before := List.not_mem_cons_of_ne_of_not_mem (Ne.symm hc) h
          rw [column_of_not_mem hcons, column_of_not_mem h, List.count_eq_zero.mpr h,
            List.length_cons]
          exact offsetAt_cons_zero hc _ _

/-! ## Positions in range -/

theorem InRange.exists_natCast {text : Text} {position : Position} (h : InRange text position) :
    ∃ line character : Nat, position = ⟨line, character⟩ := by
  obtain ⟨line, character⟩ := position
  obtain ⟨⟨hline, -⟩, hcharacter, -⟩ := h
  obtain ⟨line, rfl⟩ := Int.eq_ofNat_of_zero_le hline
  obtain ⟨character, rfl⟩ := Int.eq_ofNat_of_zero_le hcharacter
  exact ⟨line, character, rfl⟩

/-- Up to the offset of a position there are as many line feeds as its line says, and the last
column is its character. By induction on the text: a position is brought to the rest of the text
in the same way as its offset is. -/
theorem take_offsetAt {text : Text} {line character : Nat} (hline : line < (lines text).length)
    (hcharacter : character ≤ ((lines text).getD line []).length) :
    (text.take (offsetAt text ⟨line, character⟩)).count '\n' = line
      ∧ column (text.take (offsetAt text ⟨line, character⟩)) = character := by
  induction text generalizing line character with
  | nil =>
      obtain rfl : line = 0 := by simpa using hline
      obtain rfl : character = 0 := by simpa using hcharacter
      exact ⟨rfl, rfl⟩
  | cons c rest ih =>
      by_cases hc : c = '\n'
      · subst hc
        rw [lines_newline] at hline hcharacter
        cases line with
        | zero =>
            obtain rfl : character = 0 := by simpa using hcharacter
            rw [offsetAt_zero]
            exact ⟨rfl, rfl⟩
        | succ line =>
            obtain ⟨hcount, hcolumn⟩ := ih (by simpa using hline) (by simpa using hcharacter)
            rw [offsetAt_newline_succ, List.take_succ_cons, List.count_cons_self, column_newline]
            exact ⟨congrArg (· + 1) hcount, hcolumn⟩
      · obtain ⟨first, more, hlines⟩ := List.exists_cons_of_ne_nil (lines_ne_nil rest)
        rw [lines_cons hc hlines] at hline hcharacter
        rw [hlines] at ih
        cases line with
        | succ line =>
            obtain ⟨hcount, hcolumn⟩ := ih hline hcharacter
            rw [offsetAt_cons_succ hc, List.take_succ_cons, List.count_cons_of_ne hc,
              column_cons_of_mem (List.count_pos_iff.mp (by omega))]
            exact ⟨hcount, hcolumn⟩
        | zero =>
            cases character with
            | zero =>
                rw [offsetAt_zero]
                exact ⟨rfl, rfl⟩
            | succ character =>
                obtain ⟨hcount, hcolumn⟩ := @ih 0 character (by simp) (by simpa using hcharacter)
                have hnone := List.count_eq_zero.mp hcount
                rw [column_of_not_mem hnone] at hcolumn
                rw [offsetAt_cons_zero hc, List.take_succ_cons, List.count_cons_of_ne hc,
                  column_of_not_mem (List.not_mem_cons_of_ne_of_not_mem (Ne.symm hc) hnone),
                  List.length_cons]
                exact ⟨hcount, congrArg (· + 1) hcolumn⟩

/-- **From a position to the text before it**: a position in range is the one behind the text
before its offset. -/
theorem InRange.endPosition_take {text : Text} {position : Position} (h : InRange text position) :
    endPosition (text.take (offsetAt text position)) = position := by
  obtain ⟨line, character, rfl⟩ := h.exists_natCast
  obtain ⟨hline, hcharacter⟩ := inRange_natCast.mp h
  obtain ⟨hcount, hcolumn⟩ := take_offsetAt hline hcharacter
  rw [endPosition, hcount, hcolumn]

theorem InRange.offsetAt_le {text : Text} {position : Position} (h : InRange text position) :
    offsetAt text position ≤ text.length := by
  have hend := offsetAt_endPosition (text.take (offsetAt text position))
    (text.drop (offsetAt text position))
  rw [List.take_append_drop, h.endPosition_take, List.length_take] at hend
  omega

theorem offsetAt_le_length (text : Text) (position : Position) :
    offsetAt text position ≤ text.length := by
  by_cases hline : (lines text).length ≤ position.line
  · rw [offsetAt_eq, if_pos hline]
  · -- a position on a line of the text has the offset of the nearest one in range
    let near : Position := ⟨(position.line.toNat : Nat),
      (min position.character.toNat ((lines text).getD position.line.toNat []).length : Nat)⟩
    have hpos : 0 < (lines text).length := List.length_pos_of_ne_nil (lines_ne_nil text)
    have hlt : position.line.toNat < (lines text).length := by omega
    have hnear : InRange text near := inRange_natCast.mpr ⟨hlt, Nat.min_le_right _ _⟩
    have hsame : offsetAt text near = offsetAt text position := by
      rw [offsetAt_natCast, if_pos hlt, Nat.min_assoc, Nat.min_self, offsetAt_eq, if_neg hline]
    rw [← hsame]
    exact hnear.offsetAt_le

theorem Buffer.InStep.offsetAt_le_length {buffer : Buffer} (h : buffer.InStep)
    (position : Position) : buffer.offsetAt position ≤ buffer.text.length := by
  rw [h.offsetAt_eq]
  exact Document.offsetAt_le_length buffer.text position

/-! ## Positions within the bounds -/

theorem bounded_of_le {line character : Nat} (hline : (line : Int) ≤ Quantity.line.greatest)
    (hcharacter : (character : Int) ≤ Quantity.character.greatest) :
    (Position.mk line character).bounded = .ok ⟨line, character⟩ := by
  simp only [Position.bounded, Quantity.bounded, Quantity.least, hline, hcharacter,
    Int.natCast_nonneg, and_self, if_true]
  rfl

/-- The end of a text within the bounds is within them. -/
theorem bounded_endPosition {before : Text} (h : before.length ≤ 2147483647) :
    (endPosition before).bounded = .ok (endPosition before) := by
  have hcount : before.count '\n' ≤ before.length := List.count_le_length
  have hcolumn : column before ≤ before.length := by
    have hwhile := List.takeWhile_prefix (p := (· != '\n')) (l := before.reverse)
    simpa [column] using hwhile.length_le
  apply bounded_of_le
  · simp only [Quantity.greatest]
    omega
  · simp only [Quantity.greatest]
    omega

end TagLens.Document
