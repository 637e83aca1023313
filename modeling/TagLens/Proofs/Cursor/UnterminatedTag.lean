import Mathlib.Data.List.Infix
import TagLens.Cursor.Context
import TagLens.Proofs.Markup.Character

/-!
# Classification reads the unterminated tag only

The kind of place the cursor stands at is decided by the text behind the last `<`, if no `>`
follows that. `kindInTag` is the decision as a function of this text alone, and

    classify_tag : classify (before ++ '<' :: inner) = kindInTag inner

holds whatever stands before the tag. Where there is no unterminated tag the kind is `none`
(`classify_settled`).
-/

namespace TagLens.Cursor

open Text (doubleQuote singleQuote isBlank)

/-! ## Finding the tag -/

/-- The unterminated tag begins at the last `<`. -/
theorem unterminatedTag?_append {inner : Text} (before : Text)
    (h : ∀ c ∈ inner, isInsideTag c = true) :
    unterminatedTag? (before ++ '<' :: inner) = some ('<' :: inner) := by
  have hinner : ∀ c ∈ inner.reverse, isInsideTag c = true := by
    intro c hc
    exact h c (List.mem_reverse.mp hc)
  have hopen : isInsideTag '<' = false := rfl
  have hreverse : (before ++ '<' :: inner).reverse = inner.reverse ++ '<' :: before.reverse := by
    simp
  rw [unterminatedTag?, hreverse, List.dropWhile_append_of_pos hinner,
    List.takeWhile_append_of_pos hinner, List.dropWhile_cons_of_neg (by simp [hopen]),
    List.takeWhile_cons_of_neg (by simp [hopen])]
  simp

/-- There is no unterminated tag when the last end of a tag is none that opens one. -/
theorem unterminatedTag?_eq_none_iff {before : Text} :
    unterminatedTag? before = none
      ↔ (before.reverse.dropWhile isInsideTag).head? ≠ some '<' := by
  rw [unterminatedTag?]
  split
  · next heq => simp [heq]
  · next hnot =>
      simp only [ne_eq, true_iff]
      intro hhead
      obtain ⟨rest, hrest⟩ := List.head?_eq_some_iff.mp hhead
      exact hnot rest hrest

/-- A character other than `<` leaves a text without an unterminated tag. -/
theorem unterminatedTag?_append_char {before : Text} {c : Char}
    (h : unterminatedTag? before = none) (hc : c ≠ '<') :
    unterminatedTag? (before ++ [c]) = none := by
  rw [unterminatedTag?_eq_none_iff] at h ⊢
  rw [List.reverse_append, List.reverse_singleton, List.singleton_append]
  by_cases hin : isInsideTag c = true
  · rwa [List.dropWhile_cons_of_pos hin]
  · rw [List.dropWhile_cons_of_neg hin]
    simpa using hc

theorem unterminatedTag?_append_text {before text : Text} (h : unterminatedTag? before = none)
    (htext : '<' ∉ text) : unterminatedTag? (before ++ text) = none := by
  induction text generalizing before with
  | nil => rwa [List.append_nil]
  | cons c text ih =>
      obtain ⟨hc, hrest⟩ := not_or.mp (List.mem_cons.not.mp htext)
      rw [List.append_cons]
      exact ih (unterminatedTag?_append_char h (Ne.symm hc)) hrest

/-- The end of a tag leaves no unterminated tag, whatever stands before it. -/
theorem unterminatedTag?_append_gt (before : Text) :
    unterminatedTag? (before ++ ['>']) = none := by
  rw [unterminatedTag?_eq_none_iff, List.reverse_append, List.reverse_singleton,
    List.singleton_append, List.dropWhile_cons_of_neg (by decide)]
  simp

theorem unterminatedTag?_of_getLast? {text : Text} (h : text.getLast? = some '>') :
    unterminatedTag? text = none := by
  obtain ⟨before, rfl⟩ := List.getLast?_eq_some_iff.mp h
  exact unterminatedTag?_append_gt before

theorem classify_settled {before : Text} (h : unterminatedTag? before = none) :
    classify before = .none := by
  have hclosing : inClosingTag before = false := by
    by_contra hclosing
    have hsuffix : ['<', '/'] <:+ before := by
      rw [← List.isSuffixOf_iff_suffix]
      simpa [inClosingTag] using hclosing
    obtain ⟨start, rfl⟩ := hsuffix
    rw [unterminatedTag?_append start (List.all_eq_true.mp rfl)] at h
    exact absurd h (by simp)
  simp [classify, inAttributeValue, inAttributeName, inElementName, h, hclosing]

/-! ## The kind as a function of the tag -/

/-- What may be typed behind a `<` and the text `inner`, which holds neither end of a tag. -/
def kindInTag (inner : Text) : Kind :=
  if hasOpenQuote inner then .attributeValue
  else if inner = ['/'] then .closingTag
  else if inner.head? = some '/' then .none
  else if inner.any isBlank then
    if inner.getLast? = some '=' then .none else .attributeName
  else .elementName

/-- The slash of a closing tag is looked for at the end of the text, but it counts only right
behind the `<`. -/
theorem inClosingTag_tag {inner : Text} (before : Text)
    (h : ∀ c ∈ inner, isInsideTag c = true) :
    inClosingTag (before ++ '<' :: inner) = true ↔ inner = ['/'] := by
  rw [inClosingTag, List.isSuffixOf_iff_suffix]
  constructor
  · rintro ⟨start, hstart⟩
    -- The two texts have the same unterminated tag.
    have hslash : ∀ c ∈ ['/'], isInsideTag c = true := List.all_eq_true.mp rfl
    have hleft := unterminatedTag?_append start hslash
    have hright := unterminatedTag?_append before h
    rw [show start ++ '<' :: ['/'] = before ++ '<' :: inner from hstart, hright] at hleft
    exact (List.cons.inj (Option.some.inj hleft)).2
  · rintro rfl
    exact ⟨before, rfl⟩

theorem hasOpenQuote_tag (inner : Text) : hasOpenQuote ('<' :: inner) = hasOpenQuote inner := by
  have hdouble : ('<' :: inner).count doubleQuote = inner.count doubleQuote :=
    List.count_cons_of_ne (by decide)
  have hsingle : ('<' :: inner).count singleQuote = inner.count singleQuote :=
    List.count_cons_of_ne (by decide)
  rw [hasOpenQuote, hasOpenQuote, hdouble, hsingle]

theorem isClosing_tag (inner : Text) : isClosing ('<' :: inner) = (inner.head? == some '/') := by
  cases inner with
  | nil => rfl
  | cons c inner =>
      by_cases hc : c = '/'
      · subst hc
        rfl
      · have hleft : ('/' == c) = false := beq_false_of_ne (Ne.symm hc)
        have hright : (c == '/') = false := beq_false_of_ne hc
        simp [isClosing, List.isPrefixOf, hleft, hright]

/-- **The kind depends on the unterminated tag alone.** -/
theorem classify_tag {inner : Text} (before : Text) (h : ∀ c ∈ inner, isInsideTag c = true) :
    classify (before ++ '<' :: inner) = kindInTag inner := by
  have htag := unterminatedTag?_append before h
  have hblank : ('<' :: inner).any isBlank = inner.any isBlank := by
    rw [List.any_cons, show isBlank '<' = false by decide, Bool.false_or]
  rw [classify, inAttributeValue, inAttributeName, inElementName, htag, kindInTag]
  simp only [hasOpenQuote_tag, isClosing_tag, hblank, inClosingTag_tag before h]
  by_cases hquote : hasOpenQuote inner = true
  · simp [hquote]
  · by_cases hslash : inner = ['/']
    · simp [hslash]
    · by_cases hhead : inner.head? = some '/'
      · simp [hquote, hslash, hhead]
      · by_cases hany : inner.any isBlank = true
        · have hlast : ('<' :: inner).getLast? = inner.getLast? := by
            cases inner with
            | nil => simp at hany
            | cons c rest => exact List.getLast?_cons_cons
          by_cases heq : inner.getLast? = some '='
          · simp [hquote, hslash, hhead, hany, hlast, heq]
          · simp [hquote, hslash, hhead, hany, hlast, heq]
        · simp [hquote, hslash, hhead, hany]

end TagLens.Cursor
