/-!
# Text as a list of characters

Documents, names and attribute values are lists of characters, so that an offset,
a column and a length are all plain numbers of characters.

The module also holds the one search loop of the library. `occurrences` walks a text
from left to right with a *reader*, a function that says whether something begins at
the head of a text and how many characters it takes. A reader that succeeds consumes
its characters, a reader that fails lets the walk move on by one, so the occurrences
are leftmost and never overlap.
-/

namespace TagLens

/-- A text is the list of its characters. -/
abbrev Text := List Char

namespace Text

/-- The double quotation mark. -/
def doubleQuote : Char := '\x22'

/-- The single quotation mark, which is also the apostrophe. -/
def singleQuote : Char := '\x27'

/-- Either character that may delimit an attribute value. -/
def isQuote (c : Char) : Bool := c == doubleQuote || c == singleQuote

/-- Does `needle` stand somewhere in the text? -/
def contains (needle : Text) : Text → Bool
  | [] => needle.isEmpty
  | c :: rest => needle.isPrefixOf (c :: rest) || contains needle rest

/-- Replace every occurrence of one character. -/
def replaceChar (old new : Char) (text : Text) : Text :=
  text.map fun c => if c == old then new else c

/-- Cut a text at every occurrence of a character. There is always at least one piece. -/
def split (separator : Char) : Text → List Text
  | [] => [[]]
  | c :: rest =>
    if c == separator then [] :: split separator rest
    else
      match split separator rest with
      | [] => [[c]]
      | piece :: more => (c :: piece) :: more

/-- What is left after dropping a run of characters is no longer than the text. -/
theorem length_dropWhile_le (p : Char → Bool) (text : Text) :
    (text.dropWhile p).length ≤ text.length :=
  (List.dropWhile_sublist p).length_le

/-! ### Searching with a reader -/

/-- Something a reader found, with the half-open span of offsets it covers. -/
structure Occurrence (α : Type) where
  start : Nat
  stop : Nat
  value : α
  deriving DecidableEq, Repr

/-- What begins at the head of a text, and how many characters it takes. A reader that
succeeds takes at least one character. -/
abbrev Reader (α : Type) := Text → Option (α × Nat)

/-- The leftmost, non-overlapping finds of `read`, in order; `offset` is the offset of the
head of the text. -/
def occurrences {α : Type} (read : Reader α) (offset : Nat) (text : Text) :
    List (Occurrence α) :=
  match text with
  | [] => []
  | c :: rest =>
    match read (c :: rest) with
    | none => occurrences read (offset + 1) rest
    | some (a, n) =>
      ⟨offset, offset + n, a⟩ :: occurrences read (offset + n) (rest.drop (n - 1))
termination_by text.length
decreasing_by
  · simp
  · simp only [List.length_drop, List.length_cons]; omega

end Text
end TagLens
