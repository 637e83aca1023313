import TagLens.Proofs.Document.LineTable

/-!
# Taking an edit back

An edit that replaces a range is taken back by another one, which puts what was replaced where the
replacement now stands. Its range is expressed in positions of the edited text, whose lines may be
altogether different, so what makes it work is that positions and offsets are inverse to each other
there (`first_inverseRange`, `last_inverseRange`). The text then comes back as a whole
(`apply_inverse`), and with it the buffer (`Buffer.edit_inverse`).
-/

namespace TagLens.Document

/-- The offset at which a range of the text begins, whichever of its ends that is. -/
def Range.first (range : Range) (text : Text) : Nat :=
  min (offsetAt text range.start) (offsetAt text range.stop)

/-- The offset at which a range of the text ends. -/
def Range.last (range : Range) (text : Text) : Nat :=
  max (offsetAt text range.start) (offsetAt text range.stop)

/-- The replacement of a range. -/
def replace (range : Range) (replacement : Text) : Change := ⟨replacement, some range⟩

/-- Where a replacement of a range stands in the edited text. -/
def inverseRange (text : Text) (range : Range) (replacement : Text) : Range :=
  let edited := (replace range replacement).apply text
  ⟨positionAt edited (range.first text),
    positionAt edited (range.first text + replacement.length : Nat)⟩

/-- The edit that takes back the replacement of a range: it puts there what stood between the
offsets of the range. -/
def inverse (text : Text) (range : Range) (replacement : Text) : Change :=
  replace (inverseRange text range replacement)
    ((text.drop (range.first text)).take (range.last text - range.first text))

variable (text : Text) (range : Range) (replacement : Text)

/-! ## Replacing a range -/

theorem first_le_last : range.first text ≤ range.last text := by
  rw [Range.first, Range.last]
  omega

theorem last_le_length : range.last text ≤ text.length :=
  Nat.max_le.mpr ⟨offsetAt_le_length text range.start, offsetAt_le_length text range.stop⟩

theorem length_take_first : (text.take (range.first text)).length = range.first text := by
  have hfirst := first_le_last text range
  have hlast := last_le_length text range
  rw [List.length_take]
  omega

theorem apply_replace :
    (replace range replacement).apply text
      = text.take (range.first text) ++ replacement ++ text.drop (range.last text) := rfl

/-- The text is what stands before the range, in it and behind it. -/
theorem take_range_drop :
    text.take (range.first text)
        ++ (text.drop (range.first text)).take (range.last text - range.first text)
        ++ text.drop (range.last text)
      = text := by
  have hbehind : text.drop (range.last text)
      = (text.drop (range.first text)).drop (range.last text - range.first text) := by
    rw [List.drop_drop, Nat.add_sub_cancel' (first_le_last text range)]
  rw [hbehind, List.append_assoc, List.take_append_drop, List.take_append_drop]

/-! ## The replacement in the edited text -/

theorem take_apply_replace :
    ((replace range replacement).apply text).take (range.first text)
      = text.take (range.first text) := by
  rw [apply_replace, List.append_assoc]
  exact List.take_left' (length_take_first text range)

theorem drop_apply_replace :
    ((replace range replacement).apply text).drop (range.first text + replacement.length)
      = text.drop (range.last text) := by
  rw [apply_replace]
  apply List.drop_left'
  rw [List.length_append, length_take_first]

theorem first_add_length_le :
    range.first text + replacement.length ≤ ((replace range replacement).apply text).length := by
  rw [apply_replace, List.length_append, List.length_append, length_take_first]
  omega

/-- The ends of the inverse range are found again at the ends of the replacement. -/
theorem offsetAt_inverseRange :
    offsetAt ((replace range replacement).apply text) (inverseRange text range replacement).start
        = range.first text
      ∧ offsetAt ((replace range replacement).apply text)
          (inverseRange text range replacement).stop
        = range.first text + replacement.length := by
  have hend := first_add_length_le text range replacement
  constructor
  · rw [inverseRange, offsetAt_positionAt]
    exact clampOffset_natCast (Nat.le_trans (Nat.le_add_right _ _) hend)
  · rw [inverseRange, offsetAt_positionAt]
    exact clampOffset_natCast hend

theorem first_inverseRange :
    (inverseRange text range replacement).first ((replace range replacement).apply text)
      = range.first text := by
  obtain ⟨hstart, hstop⟩ := offsetAt_inverseRange text range replacement
  rw [Range.first, hstart, hstop]
  omega

theorem last_inverseRange :
    (inverseRange text range replacement).last ((replace range replacement).apply text)
      = range.first text + replacement.length := by
  obtain ⟨hstart, hstop⟩ := offsetAt_inverseRange text range replacement
  rw [Range.last, hstart, hstop]
  omega

/-- **An edit and then its inverse** give the text back. -/
theorem apply_inverse :
    (inverse text range replacement).apply ((replace range replacement).apply text) = text := by
  rw [inverse, apply_replace, first_inverseRange, last_inverseRange, take_apply_replace,
    drop_apply_replace, take_range_drop]

variable {text range replacement}

/-- The inverse range can be sent when the edited text is within the bounds. -/
theorem bounded_inverseRange
    (h : ((replace range replacement).apply text).length ≤ 2147483647) :
    (inverseRange text range replacement).bounded
      = .ok (inverseRange text range replacement) := by
  rw [inverseRange, Range.bounded, bounded_positionAt h, bounded_positionAt h]
  rfl

namespace Buffer

/-- The inverse leads back to the buffer that the text would have opened. -/
theorem edit_inverse_new (uri : String) {version later : Int} (h : version < later) :
    (Buffer.new uri ((replace range replacement).apply text) version).edit
        [inverse text range replacement] later
      = (true, Buffer.new uri text later) := by
  rw [(inStep_new _ _ _).edit_of_lt h]
  show (true, Buffer.new uri ((inverse text range replacement).apply
    ((replace range replacement).apply text)) later) = _
  rw [apply_inverse]

section

variable {buffer : Buffer} (h : buffer.InStep)

include h

theorem InStep.first_eq (range : Range) :
    min (buffer.offsetAt range.start) (buffer.offsetAt range.stop) = range.first buffer.text := by
  rw [Range.first, h.offsetAt_eq, h.offsetAt_eq]

theorem InStep.last_eq (range : Range) :
    max (buffer.offsetAt range.start) (buffer.offsetAt range.stop) = range.last buffer.text := by
  rw [Range.last, h.offsetAt_eq, h.offsetAt_eq]

end

/-- **Every ranged edit can be taken back.** An accepted edit puts the replacement between the two
offsets of its range, which may be reversed or lie beyond the text. Its inverse puts what stood
there between the positions that the edited buffer has for the ends of the replacement; if the
edited text is within the protocol's bounds, so are these. Accepted at any later version, the
inverse leads back to the text, to its lines and to the offsets at which they begin. The buffer has
to be in step, as it is from its opening on, whatever happens to it (`InStep.reviseAll`). -/
theorem edit_inverse (buffer : Buffer) (range : Range) (replacement : Text)
    (version later : Int) (hstep : buffer.InStep) (haccepted : buffer.version < version)
    (hlater : version < later) :
    let first := min (buffer.offsetAt range.start) (buffer.offsetAt range.stop)
    let last := max (buffer.offsetAt range.start) (buffer.offsetAt range.stop)
    let edited := (buffer.edit [replace range replacement] version).2
    let standing : Range :=
      ⟨edited.positionAt first, edited.positionAt (first + replacement.length : Nat)⟩
    let replaced := (buffer.text.drop first).take (last - first)
    let restored := (edited.edit [replace standing replaced] later).2
    edited.text = buffer.text.take first ++ replacement ++ buffer.text.drop last
      ∧ (edited.text.length ≤ 2147483647 → standing.bounded = .ok standing)
      ∧ restored = { buffer with version := later }
      ∧ restored.lines = buffer.lines
      ∧ restored.lineOffsets = buffer.lineOffsets := by
  intro first last edited standing replaced restored
  have hfirst : first = range.first buffer.text := hstep.first_eq range
  have hlast : last = range.last buffer.text := hstep.last_eq range
  have hedited : edited
      = Buffer.new buffer.uri ((replace range replacement).apply buffer.text) version :=
    congrArg (·.2) (hstep.edit_of_lt haccepted [replace range replacement])
  have hin : edited.InStep := hstep.edit [replace range replacement] version
  have hstanding : standing = inverseRange buffer.text range replacement := by
    show Range.mk (edited.positionAt first)
      (edited.positionAt (first + replacement.length : Nat)) = _
    rw [hin.positionAt_eq, hin.positionAt_eq, hedited, hfirst]
    rfl
  have hback : replace standing replaced = inverse buffer.text range replacement := by
    show replace standing ((buffer.text.drop first).take (last - first)) = _
    rw [hstanding, hfirst, hlast]
    rfl
  have hrestored : restored = { buffer with version := later } := by
    show (edited.edit [replace standing replaced] later).2 = _
    rw [hback, hedited, edit_inverse_new buffer.uri hlater, hstep.eq_new]
    rfl
  refine ⟨?_, ?_, hrestored, by rw [hrestored], by rw [hrestored]⟩
  · rw [hedited, hfirst, hlast]
    exact apply_replace buffer.text range replacement
  · intro hsize
    rw [hedited] at hsize
    rw [hstanding]
    exact bounded_inverseRange hsize

/-- A reversed range from beyond the end of the text is replaced by two lines, and the edit is taken
back. -/
theorem edit_inverse_draft :
    let edited := (draft.edit [replace ⟨⟨7, 7⟩, ⟨0, 2⟩⟩ "1\n2".toList] 2).2
    edited.text = "ab1\n2".toList
      ∧ edited.lineOffsets = [0, 4]
      ∧ (Range.mk (edited.positionAt 2) (edited.positionAt 5)) = ⟨⟨0, 2⟩, ⟨1, 1⟩⟩
      ∧ (edited.edit [replace ⟨⟨0, 2⟩, ⟨1, 1⟩⟩ "\r\n".toList] 5).2
        = { draft with version := 5 } := by
  obtain ⟨hedited, -, hrestored, -⟩ :=
    edit_inverse draft ⟨⟨7, 7⟩, ⟨0, 2⟩⟩ "1\n2".toList 2 5 (inStep_new _ _ _) (by decide) (by decide)
  exact ⟨hedited, by decide, by decide, hrestored⟩

end Buffer
end TagLens.Document
