import TagLens.Text.Word

/-!
# Names of elements and attributes

A name begins with an ASCII letter or an underscore and goes on with word characters of any
script, dots, colons and hyphens. `nameAt?` reads the longest name at the head of a text; a
text is a name as a whole when that longest name is all of it.
-/

namespace TagLens.Markup

/-- May the character begin a name? -/
def isNameStart (c : Char) : Bool := c.isAlpha || c == '_'

/-- May the character continue a name? -/
def isNameChar (c : Char) : Bool := Text.isWord c || c == '.' || c == ':' || c == '-'

/-- The longest name at the head of a text. -/
def nameAt? : Text → Option Text
  | [] => none
  | c :: rest => if isNameStart c then some (c :: rest.takeWhile isNameChar) else none

/-- The whole text is a name. -/
def IsName (text : Text) : Prop := nameAt? text = some text

instance (text : Text) : Decidable (IsName text) := inferInstanceAs (Decidable (_ = _))

/-- What may begin a name may also continue one. -/
theorem isNameChar_of_isNameStart {c : Char} (h : isNameStart c = true) :
    isNameChar c = true := by
  simp only [isNameStart, Bool.or_eq_true] at h
  rcases h with h | h
  · simp [isNameChar, Text.isWord, Char.isAlphanum, h]
  · simp [isNameChar, Text.isWord, h]

/-- A run of name characters is taken as a whole. -/
theorem takeWhile_isNameChar_eq {rest : Text} :
    rest.takeWhile isNameChar = rest ↔ ∀ d ∈ rest, isNameChar d = true := by
  induction rest with
  | nil => simp
  | cons c rest ih => by_cases hc : isNameChar c = true <;> simp [hc, ih]

/-- A text is a name exactly when its first character begins a name and the others continue
it. -/
theorem isName_cons {c : Char} {rest : Text} :
    IsName (c :: rest) ↔ isNameStart c = true ∧ ∀ d ∈ rest, isNameChar d = true := by
  rw [IsName, nameAt?, ← takeWhile_isNameChar_eq]
  split
  · next h => simp only [h, Option.some.injEq, List.cons.injEq, true_and]
  · next h => simp [h]

end TagLens.Markup
