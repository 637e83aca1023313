import TagLens.Text.Lines
import TagLens.Cursor.Context
import TagLens.Document.Position

/-!
# Buffers of open documents

A buffer holds the text of an open document, its version and the table of its lines: the lines
themselves and the offsets at which they begin. The table is kept beside the text and is written
anew with it, by `setText` and nothing else.

Positions are turned into offsets through the table, and every position has an offset: a line
before the first counts as the first, a character outside a line is moved to the nearer end of it,
and everything after the last line is the end of the text.

Edits arrive in batches that carry a version. A batch whose version does not go beyond the
buffer's is stale and changes nothing.
-/

namespace TagLens.Document

/-- One open document. -/
structure Buffer where
  uri : String
  text : Text
  version : Int
  lines : List Text
  /-- The offsets at which the lines begin. -/
  lineOffsets : List Nat
  deriving DecidableEq, Repr

/-- An edit: replace a range, or the whole text when there is no range. -/
structure Change where
  text : Text
  range : Option Range := none
  deriving DecidableEq, Repr

/-- The offset of a text nearest to an integer. -/
def clampOffset (text : Text) (offset : Int) : Nat := min offset.toNat text.length

namespace Buffer

/-! ### Text and table -/

/-- Set the text, and with it the table of lines. -/
def setText (buffer : Buffer) (text : Text) : Buffer :=
  let lines := Text.lines text
  { buffer with text, lines, lineOffsets := Text.lineStartsFrom 0 lines }

/-- A document that is being opened. -/
def new (uri : String) (text : Text) (version : Int) : Buffer :=
  setText { uri, text, version, lines := [], lineOffsets := [] } text

@[simp] theorem text_new (uri : String) (text : Text) (version : Int) :
    (Buffer.new uri text version).text = text := rfl

/-- Replace text and version unconditionally. -/
def update (buffer : Buffer) (text : Text) (version : Int) : Buffer :=
  { buffer.setText text with version }

/-! ### Offsets and positions -/

/-- The offset of a position; every position has one. -/
def offsetAt (buffer : Buffer) (position : Position) : Nat :=
  if buffer.lines.length ≤ position.line then buffer.text.length
  else
    let index := position.line.toNat
    let line := buffer.lines.getD index []
    buffer.lineOffsets.getD index 0 + min position.character.toNat line.length

/-- The position of an offset; offsets outside the text are moved to its nearer end. -/
def positionAt (buffer : Buffer) (offset : Int) : Position :=
  let offset := clampOffset buffer.text offset
  let line := (buffer.text.take offset).count '\n'
  ⟨line, (offset : Int) - (buffer.lineOffsets.getD line 0 : Int)⟩

/-- The text before a position. -/
def textBefore (buffer : Buffer) (position : Position) : Text :=
  buffer.text.take (buffer.offsetAt position)

/-- A line by its number; there is an empty one wherever the text has none. -/
def lineAt (buffer : Buffer) (line : Int) : Text :=
  if 0 ≤ line then buffer.lines.getD line.toNat [] else []

/-- The cursor's surroundings at a position. -/
def contextAt (buffer : Buffer) (position : Position) : Cursor.Context :=
  Cursor.context (buffer.textBefore position)

/-! ### Edits -/

/-- Apply one edit. The ends of a range may come in either order. -/
def applyChange (buffer : Buffer) (change : Change) : Buffer :=
  match change.range with
  | none => buffer.setText change.text
  | some range =>
    let a := buffer.offsetAt range.start
    let b := buffer.offsetAt range.stop
    buffer.setText (buffer.text.take (min a b) ++ change.text ++ buffer.text.drop (max a b))

/-- Apply edits one after the other, each to the outcome of the one before. -/
def applyAll (buffer : Buffer) (changes : List Change) : Buffer :=
  changes.foldl applyChange buffer

/-- A batch of edits is stale when its version does not go beyond the buffer's. -/
def isStale (buffer : Buffer) (version : Int) : Bool := version ≤ buffer.version

/-- Apply a batch of edits, unless it is stale; the answer tells whether it was applied. -/
def edit (buffer : Buffer) (changes : List Change) (version : Int) : Bool × Buffer :=
  if buffer.isStale version then (false, buffer)
  else (true, { buffer.applyAll changes with version })

end Buffer
end TagLens.Document
