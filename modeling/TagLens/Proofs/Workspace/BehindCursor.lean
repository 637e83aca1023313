import TagLens.Schema.Catalog
import TagLens.Proofs.Document.Place
import TagLens.Proofs.Workspace.Operation

/-!
# Edits behind the cursor

What is offered at a cursor depends on the text before it, and edits at or behind the cursor leave
that text alone. They may well split, join or lengthen the line of the cursor; the table of lines
is then another one, but the cursor keeps its offset in it, since a position in range is the one
behind the text before it (`offsetAt_of_take_eq`).

The main statement is `edit_behind_cursor`: after a batch of such edits the offset of the cursor,
the text before it, its surroundings and the suggestions are what they were. It asks for a buffer
that keeps the table of its text, as every document of a reachable workspace does
(`Reachable.orderly`).
-/

namespace TagLens.Document

/-- A position in range keeps its offset in every text that begins in the same way. -/
theorem offsetAt_of_take_eq {text other : Text} {position : Position}
    (h : InRange text position)
    (htake : other.take (offsetAt text position) = text.take (offsetAt text position))
    (hle : offsetAt text position ≤ other.length) :
    offsetAt other position = offsetAt text position := by
  have hend := offsetAt_endPosition (other.take (offsetAt text position))
    (other.drop (offsetAt text position))
  rw [List.take_append_drop, List.length_take, Nat.min_eq_left hle, htake,
    h.endPosition_take] at hend
  exact hend

/-! ## Edits that leave the front of a text alone -/

/-- The edit replaces a range, and both ends of the range lie at or behind the offset. -/
def Change.Behind (offset : Nat) (change : Change) (buffer : Buffer) : Prop :=
  ∃ range ∈ change.range,
    offset ≤ buffer.offsetAt range.start ∧ offset ≤ buffer.offsetAt range.stop

/-- All edits of a batch lie at or behind the offset, each in the text it is applied to. -/
def AllBehind (offset : Nat) : List Change → Buffer → Prop
  | [], _ => True
  | change :: rest, buffer =>
    change.Behind offset buffer ∧ AllBehind offset rest (buffer.applyChange change)

/-- **One edit** behind an offset keeps the text before the offset. -/
theorem Change.Behind.take_applyChange {offset : Nat} {change : Change} {buffer : Buffer}
    (hstep : buffer.InStep) (h : change.Behind offset buffer) :
    (buffer.applyChange change).text.take offset = buffer.text.take offset
      ∧ offset ≤ (buffer.applyChange change).text.length := by
  obtain ⟨range, hrange, hstart, hstop⟩ := h
  rw [Option.mem_def] at hrange
  have hmin : offset ≤ min (buffer.offsetAt range.start) (buffer.offsetAt range.stop) :=
    Nat.le_min.mpr ⟨hstart, hstop⟩
  have hfront : offset ≤ (buffer.text.take
      (min (buffer.offsetAt range.start) (buffer.offsetAt range.stop))).length := by
    have hle := hstep.offsetAt_le_length range.start
    rw [List.length_take]
    omega
  simp only [Buffer.applyChange, hrange, Buffer.setText, List.append_assoc]
  constructor
  · rw [List.take_append_of_le_length hfront, List.take_take, Nat.min_eq_left hmin]
  · rw [List.length_append]
    exact Nat.le_trans hfront (Nat.le_add_right _ _)

/-- **A whole batch** behind an offset keeps the text before the offset. -/
theorem AllBehind.take_applyAll {offset : Nat} {changes : List Change} {buffer : Buffer}
    (hstep : buffer.InStep) (hle : offset ≤ buffer.text.length)
    (h : AllBehind offset changes buffer) :
    (buffer.applyAll changes).text.take offset = buffer.text.take offset
      ∧ offset ≤ (buffer.applyAll changes).text.length := by
  induction changes generalizing buffer with
  | nil => exact ⟨rfl, hle⟩
  | cons change rest ih =>
      obtain ⟨hchange, hrest⟩ := h
      obtain ⟨htake, hlength⟩ := hchange.take_applyChange hstep
      obtain ⟨htakes, hlengths⟩ := ih (Buffer.inStep_applyChange buffer change) hlength hrest
      exact ⟨htakes.trans htake, hlengths⟩

section

variable {buffer : Buffer} {position : Position} {changes : List Change}
  (hstep : buffer.InStep) (hrange : buffer.InRange position)
  (hbehind : AllBehind (buffer.offsetAt position) changes buffer)

include hstep hrange hbehind

theorem AllBehind.offsetAt_applyAll :
    (buffer.applyAll changes).offsetAt position = buffer.offsetAt position := by
  have hinside := (hstep.inRange_iff position).mp hrange
  obtain ⟨htake, hle⟩ := hbehind.take_applyAll hstep (hstep.offsetAt_le_length position)
  rw [hstep.offsetAt_eq] at htake hle ⊢
  rw [(hstep.applyAll changes).offsetAt_eq]
  exact offsetAt_of_take_eq hinside htake hle

theorem AllBehind.textBefore_applyAll :
    (buffer.applyAll changes).textBefore position = buffer.textBefore position := by
  obtain ⟨htake, -⟩ := hbehind.take_applyAll hstep (hstep.offsetAt_le_length position)
  rw [Buffer.textBefore, Buffer.textBefore, hbehind.offsetAt_applyAll hstep hrange, htake]

end

end TagLens.Document

namespace TagLens.Workspace

open Document (Buffer Change Position AllBehind applyChanges)

/-! ## The cursor of an open document -/

theorem document?_edit {workspace : Workspace} {uri : String} {buffer : Buffer}
    (hopen : workspace.document? uri = some buffer) (changes : List Change) (version : Int) :
    (workspace.edit uri changes version).1.document? uri
      = some (buffer.edit changes version).2 := by
  rw [document?_edit_eq, if_pos rfl, hopen]
  rfl

theorem schema_edit (workspace : Workspace) (uri : String) (changes : List Change)
    (version : Int) : (workspace.edit uri changes version).1.schema = workspace.schema :=
  (sameService_edit workspace uri changes version).schema

/-- **Edits behind the cursor change nothing at the cursor.** After an accepted batch all of whose
edits lie at or behind a position in range, that position has the same offset, the same text before
it, the same surroundings and the same suggestions. The buffer has to be in step, as all documents
of a reachable workspace are. -/
theorem edit_behind_cursor (workspace : Workspace) (uri : String) (buffer : Buffer)
    (position : Position) (changes : List Change) (version : Int)
    (hopen : workspace.document? uri = some buffer) (hstep : buffer.InStep)
    (hrange : buffer.InRange position)
    (hbehind : AllBehind (buffer.offsetAt position) changes buffer)
    (haccepted : (buffer.edit changes version).1 = true) :
    ∃ edited : Buffer, (workspace.edit uri changes version).1.document? uri = some edited
      ∧ edited.text = applyChanges changes buffer.text ∧ edited.version = version
      ∧ edited.offsetAt position = buffer.offsetAt position
      ∧ edited.textBefore position = buffer.textBefore position
      ∧ edited.contextAt position = buffer.contextAt position
      ∧ (workspace.edit uri changes version).1.complete uri position
          = workspace.complete uri position := by
  have hedited := Buffer.edit_of_lt ((buffer.edit_fst_iff changes version).mp haccepted) changes
  have hdocument := document?_edit hopen changes version
  rw [hedited] at hdocument
  -- the version has no part in where positions are
  have hoffset : Buffer.offsetAt { buffer.applyAll changes with version } position
      = buffer.offsetAt position := hbehind.offsetAt_applyAll hstep hrange
  have hbefore : Buffer.textBefore { buffer.applyAll changes with version } position
      = buffer.textBefore position := hbehind.textBefore_applyAll hstep hrange
  refine ⟨_, hdocument, hstep.text_applyAll changes, rfl, hoffset, hbefore, ?_, ?_⟩
  · exact congrArg Cursor.context hbefore
  · rw [complete, complete, hdocument, hopen, schema_edit]
    exact congrArg (Assist.complete workspace.schema) hbefore

/-- A document whose second line is a half-typed tag. -/
def halfTyped : Buffer := .new "list" "<list>\n<\n</list>".toList 1

def halfTypedWorkspace : Workspace :=
  { Workspace.new Schema.Catalog.schema ⟨.root, []⟩ {} none with
    documents := [("list", halfTyped)] }

/-- Two edits behind the `<` of the half-typed tag: the first breaks the line of the cursor, the
second, whose range is reversed, takes everything up to the last line away. -/
def breakAndJoin : List Change :=
  [⟨"item>\n".toList, some ⟨⟨1, 1⟩, ⟨1, 1⟩⟩⟩, ⟨[], some ⟨⟨3, 0⟩, ⟨1, 1⟩⟩⟩]

theorem edit_behind_cursor_halfTyped :
    (halfTyped.applyAll breakAndJoin).text = "<list>\n<</list>".toList
      ∧ AllBehind (halfTyped.offsetAt ⟨1, 1⟩) breakAndJoin halfTyped
      ∧ (halfTypedWorkspace.edit "list" breakAndJoin 2).1.complete "list" ⟨1, 1⟩
          = halfTypedWorkspace.complete "list" ⟨1, 1⟩ := by
  have hopen : halfTypedWorkspace.document? "list" = some halfTyped := rfl
  have hrange : halfTyped.InRange ⟨1, 1⟩ := by decide
  have hbehind : AllBehind (halfTyped.offsetAt ⟨1, 1⟩) breakAndJoin halfTyped :=
    ⟨⟨_, rfl, by decide, by decide⟩, ⟨_, rfl, by decide, by decide⟩, trivial⟩
  obtain ⟨edited, -, -, -, -, -, -, hsame⟩ :=
    edit_behind_cursor halfTypedWorkspace "list" halfTyped ⟨1, 1⟩ breakAndJoin 2 hopen
      (Buffer.inStep_new _ _ _) hrange hbehind (by decide)
  exact ⟨by decide, hbehind, hsame⟩

end TagLens.Workspace
