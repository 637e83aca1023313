import TagLens.Proofs.Text.Search

/-!
# Searching a text line by line

A reader that never reaches over the end of a line (`Reader.OnLines`) finds on each line of a text
what it finds there in the text as a whole, so the two searches differ only in the offsets at which
they begin to count (`occurrences_lines`).
-/

namespace TagLens.Text

variable {α : Type} {read : Reader α}

theorem newline_not_mem_of_mem_lines {text line : Text} (h : line ∈ lines text) : '\n' ∉ line := by
  induction text generalizing line with
  | nil =>
      obtain rfl : line = [] := by simpa using h
      simp
  | cons c rest ih =>
      obtain ⟨first, more, hrest⟩ := List.exists_cons_of_ne_nil (lines_ne_nil rest)
      rw [hrest] at ih
      by_cases hc : c = '\n'
      · subst hc
        rw [lines_newline, hrest] at h
        rcases List.mem_cons.mp h with rfl | h
        · simp
        · exact ih h
      · rw [lines_cons hc hrest] at h
        rcases List.mem_cons.mp h with rfl | h
        · rw [List.mem_cons, not_or]
          exact ⟨Ne.symm hc, ih List.mem_cons_self⟩
        · exact ih (List.mem_cons_of_mem first h)

/-- The reader takes nothing at a line feed, and what it takes on a line does not depend on the
lines behind. -/
structure Reader.OnLines (read : Reader α) : Prop where
  fits : Reader.Fits read
  newline : ∀ rest, read ('\n' :: rest) = none
  append : ∀ piece rest, piece ≠ [] → '\n' ∉ piece → read (piece ++ '\n' :: rest) = read piece

/-- The first line is searched on its own. -/
theorem occurrences_line (h : Reader.OnLines read) {line : Text} (hline : '\n' ∉ line)
    (offset : Nat) (rest : Text) :
    occurrences read offset (line ++ '\n' :: rest)
      = occurrences read offset line ++ occurrences read (offset + line.length + 1) rest := by
  have hkeep : ∀ tail, tail <:+ line → tail ≠ [] → read (tail ++ '\n' :: rest) = read tail := by
    intro tail hsuffix hne
    apply h.append tail rest hne
    intro hmem
    exact hline (hsuffix.subset hmem)
  rw [occurrences_append h.fits hkeep, occurrences_cons_none _ (h.newline rest)]

theorem occurrences_joinLines (h : Reader.OnLines read) {table : List Text}
    (htable : ∀ line ∈ table, '\n' ∉ line) (offset : Nat) :
    occurrences read offset (joinLines table)
      = table.zipIdx.flatMap fun entry =>
          occurrences read ((lineStartsFrom offset table).getD entry.2 0) entry.1 := by
  induction table generalizing offset with
  | nil => exact occurrences_nil offset
  | cons line more ih =>
      obtain ⟨hline, hmore⟩ := List.forall_mem_cons.mp htable
      -- behind the first line the indices and the table of starts move on together
      have hrest : ((more.zipIdx 1).flatMap fun entry => occurrences read
          ((lineStartsFrom offset (line :: more)).getD entry.2 0) entry.1)
            = occurrences read (offset + line.length + 1) (joinLines more) := by
        rw [List.zipIdx_succ, List.flatMap_map, ih hmore]
        rfl
      rw [List.zipIdx_cons, List.flatMap_cons, hrest]
      show _ = occurrences read offset line ++ _
      cases more with
      | nil => rw [joinLines, joinLines, occurrences_nil, List.append_nil]
      | cons next more => rw [joinLines, occurrences_line h hline]

/-- **Line by line**: what is found in a text is what is found on its lines, each searched from the
offset at which it begins. -/
theorem occurrences_lines (h : Reader.OnLines read) (text : Text) :
    occurrences read 0 text
      = (lines text).zipIdx.flatMap fun entry =>
          occurrences read ((lineStarts text).getD entry.2 0) entry.1 := by
  have hlines : ∀ line ∈ lines text, '\n' ∉ line := fun _ => newline_not_mem_of_mem_lines
  have hjoin := occurrences_joinLines h hlines 0
  rwa [joinLines_lines] at hjoin

end TagLens.Text
