import TagLens.Proofs.Document.Delivery

/-!
# The table that a buffer keeps

A buffer looks positions up in a table that it keeps beside its text. The two are in step when the
table is the one of the text (`Buffer.InStep`). A document that is being opened is in step, and
everything that may happen to a buffer keeps it in step, since the table is written whenever the
text is (`inStep_setText`); a stale batch writes neither.

A text has the places that a buffer in step with it has, whatever its URI and its version
(`InStep.offsetAt_eq`, `InStep.positionAt_eq`), and edits lead from text to text
(`InStep.text_applyAll`). What holds of the places of every text therefore holds of every buffer
that is in step.
-/

namespace TagLens.Document

open Text (lines lineStarts)

/-! ## The places of a text -/

/-- A buffer that was just opened with this text. -/
def Buffer.ofText (text : Text) : Buffer := Buffer.new "" text 0

/-- The offset of a position in a text. -/
def offsetAt (text : Text) (position : Position) : Nat := (Buffer.ofText text).offsetAt position

/-- The position of an offset of a text. -/
def positionAt (text : Text) (offset : Int) : Position := (Buffer.ofText text).positionAt offset

/-- The position names a line of the buffer and a column of that line, its end included. -/
def Buffer.InRange (buffer : Buffer) (position : Position) : Prop :=
  (0 ≤ position.line ∧ position.line < buffer.lines.length)
    ∧ 0 ≤ position.character ∧ position.character ≤ (buffer.lineAt position.line).length

instance (buffer : Buffer) (position : Position) : Decidable (buffer.InRange position) :=
  inferInstanceAs (Decidable (_ ∧ _))

/-- The position names a line of the text and a column of that line. -/
def InRange (text : Text) (position : Position) : Prop := (Buffer.ofText text).InRange position

instance (text : Text) (position : Position) : Decidable (InRange text position) :=
  inferInstanceAs (Decidable ((Buffer.ofText text).InRange position))

/-- What an edit makes of a text. -/
def Change.apply (change : Change) (text : Text) : Text :=
  ((Buffer.ofText text).applyChange change).text

/-- What a batch of edits makes of a text. -/
def applyChanges (changes : List Change) (text : Text) : Text :=
  changes.foldl (fun current change => change.apply current) text

theorem offsetAt_eq (text : Text) (position : Position) :
    offsetAt text position
      = if (lines text).length ≤ position.line then text.length
        else (lineStarts text).getD position.line.toNat 0
          + min position.character.toNat ((lines text).getD position.line.toNat []).length := rfl

theorem positionAt_eq (text : Text) (offset : Int) :
    positionAt text offset
      = ⟨(text.take (clampOffset text offset)).count '\n',
          (clampOffset text offset : Int)
            - ((lineStarts text).getD ((text.take (clampOffset text offset)).count '\n') 0 : Int)⟩ :=
  rfl

theorem inRange_natCast {text : Text} {line character : Nat} :
    InRange text ⟨line, character⟩
      ↔ line < (lines text).length ∧ character ≤ ((lines text).getD line []).length := by
  have htable : (Buffer.ofText text).lines = lines text := rfl
  simp [InRange, Buffer.InRange, Buffer.lineAt, htable]

namespace Buffer

/-! ## Buffers in step -/

/-- The table that the buffer keeps is the one of its text. -/
structure InStep (buffer : Buffer) : Prop where
  lines_eq : buffer.lines = Text.lines buffer.text
  lineOffsets_eq : buffer.lineOffsets = Text.lineStarts buffer.text

theorem inStep_setText (buffer : Buffer) (text : Text) : (buffer.setText text).InStep := ⟨rfl, rfl⟩

theorem inStep_new (uri : String) (text : Text) (version : Int) :
    (Buffer.new uri text version).InStep := inStep_setText _ text

theorem inStep_update (buffer : Buffer) (text : Text) (version : Int) :
    (buffer.update text version).InStep := ⟨rfl, rfl⟩

/-- An edit sets the text, so it leaves a buffer in step, even one that was not. -/
theorem inStep_applyChange (buffer : Buffer) (change : Change) :
    (buffer.applyChange change).InStep := by
  rw [applyChange]
  split <;> exact inStep_setText buffer _

namespace InStep

variable {buffer : Buffer} (h : buffer.InStep)
include h

/-- Any number of edits leaves a buffer in step. -/
theorem applyAll (changes : List Change) : (buffer.applyAll changes).InStep := by
  induction changes generalizing buffer with
  -- without edits no table is written, and it is as good as it was
  | nil => exact h
  | cons change rest ih => exact ih (inStep_applyChange buffer change)

theorem edit (changes : List Change) (version : Int) : (buffer.edit changes version).2.InStep := by
  by_cases hversion : buffer.version < version
  · obtain ⟨hlines, hoffsets⟩ := h.applyAll changes
    rw [Buffer.edit_of_lt hversion]
    exact ⟨hlines, hoffsets⟩
  · rwa [Buffer.edit_of_le (Int.not_lt.mp hversion)]

/-- A buffer in step is one that was just opened with its text. -/
theorem eq_new : buffer = Buffer.new buffer.uri buffer.text buffer.version := by
  obtain ⟨uri, text, version, table, offsets⟩ := buffer
  obtain ⟨hlines, hoffsets⟩ := h
  dsimp only at hlines hoffsets
  subst hlines hoffsets
  rfl

/-! ## Places in a buffer in step -/

theorem offsetAt_eq (position : Position) :
    buffer.offsetAt position = Document.offsetAt buffer.text position := by
  rw [h.eq_new]
  rfl

theorem positionAt_eq (offset : Int) :
    buffer.positionAt offset = Document.positionAt buffer.text offset := by
  rw [h.eq_new]
  rfl

theorem inRange_iff (position : Position) :
    buffer.InRange position ↔ Document.InRange buffer.text position := by
  rw [h.eq_new]
  rfl

/-! ## Edits of a buffer in step -/

theorem text_applyChange (change : Change) :
    (buffer.applyChange change).text = change.apply buffer.text := by
  rw [h.eq_new]
  obtain ⟨replacement, _ | range⟩ := change <;> rfl

theorem text_applyAll (changes : List Change) :
    (buffer.applyAll changes).text = applyChanges changes buffer.text := by
  induction changes generalizing buffer with
  | nil => rfl
  | cons change rest ih =>
      have hrest := ih (inStep_applyChange buffer change)
      rwa [h.text_applyChange] at hrest

/-- Edits lead to the buffer that the new text would have opened. -/
theorem applyAll_eq_new (changes : List Change) (version : Int) :
    { buffer.applyAll changes with version }
      = Buffer.new buffer.uri (applyChanges changes buffer.text) version := by
  have hall := (h.applyAll changes).eq_new
  rw [uri_applyAll, h.text_applyAll] at hall
  rw [hall]
  rfl

theorem edit_of_lt {version : Int} (hversion : buffer.version < version) (changes : List Change) :
    buffer.edit changes version
      = (true, Buffer.new buffer.uri (applyChanges changes buffer.text) version) := by
  rw [Buffer.edit_of_lt hversion, h.applyAll_eq_new]

end InStep

end Buffer
end TagLens.Document
