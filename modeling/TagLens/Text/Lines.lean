import TagLens.Text.Basic

/-!
# Lines

A text is cut into lines at line feeds only: a carriage return is an ordinary character of
its line. There is always at least one line, and the last one may be empty. `joinLines`
undoes the cut, and `lineStarts` gives the offset at which each line begins.

`universalNewlines` is the other convention, that of files read as text: every way of ending
a line becomes a single line feed.
-/

namespace TagLens.Text

/-- The lines of a text, cut at line feeds. -/
def lines (text : Text) : List Text := split '\n' text

/-- Put lines together again, with a line feed between neighbours. -/
def joinLines : List Text → Text
  | [] => []
  | [line] => line
  | line :: next :: more => line ++ '\n' :: joinLines (next :: more)

/-- The offsets at which the lines begin, when the first one begins at `offset`. -/
def lineStartsFrom (offset : Nat) : List Text → List Nat
  | [] => []
  | line :: more => offset :: lineStartsFrom (offset + line.length + 1) more

/-- The offsets at which the lines of a text begin. -/
def lineStarts (text : Text) : List Nat := lineStartsFrom 0 (lines text)

@[simp] theorem lines_nil : lines [] = [[]] := rfl

/-- A line feed begins a new line. -/
@[simp] theorem lines_newline (rest : Text) : lines ('\n' :: rest) = [] :: lines rest := rfl

/-- Every text has a line. -/
theorem lines_ne_nil (text : Text) : lines text ≠ [] := by
  cases text with
  | nil => simp
  | cons c rest =>
    rw [lines, split]
    split
    · simp
    · split <;> simp

/-- Any other character goes to the front of the first line. -/
theorem lines_cons {c : Char} (h : c ≠ '\n') {rest line : Text} {more : List Text}
    (hr : lines rest = line :: more) : lines (c :: rest) = (c :: line) :: more := by
  rw [lines] at hr
  simp [lines, split, h, hr]

/-- Joining the lines of a text gives the text back. -/
theorem joinLines_lines (text : Text) : joinLines (lines text) = text := by
  induction text with
  | nil => rfl
  | cons c rest ih =>
    cases h : lines rest with
    | nil => exact absurd h (lines_ne_nil rest)
    | cons line more =>
      rw [h] at ih
      by_cases hc : c = '\n'
      · subst hc
        rw [lines_newline, h, joinLines, ih]
        rfl
      · rw [lines_cons hc h]
        cases more with
        | nil => simpa [joinLines] using ih
        | cons next more => simpa [joinLines] using ih

/-- There is one more line than there are line feeds. -/
theorem length_lines (text : Text) : (lines text).length = text.count '\n' + 1 := by
  induction text with
  | nil => rfl
  | cons c rest ih =>
    cases h : lines rest with
    | nil => exact absurd h (lines_ne_nil rest)
    | cons line more =>
      rw [h] at ih
      by_cases hc : c = '\n'
      · subst hc
        simp [h, ih]
      · rw [lines_cons hc h]
        simpa [hc] using ih

/-- Line ends of every kind become a single line feed. -/
def universalNewlines : Text → Text
  | [] => []
  | '\r' :: '\n' :: rest => '\n' :: universalNewlines rest
  | c :: rest => (if c == '\r' then '\n' else c) :: universalNewlines rest

end TagLens.Text
