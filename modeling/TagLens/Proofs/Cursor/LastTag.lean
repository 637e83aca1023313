import Mathlib.Data.List.DropRight
import TagLens.Proofs.Markup.Resume

/-!
# The cursor's surroundings factor at the last tag

Two readings of the text before the cursor make up its surroundings. The tag being typed is looked
for from the end of the text; it decides the kind of place, the element of the tag and its
attributes. The open elements are counted from the beginning, by a scan in which a tag may reach
over a later `<`. The two do not get in each other's way (`context_append_tag`):

    context (before ++ '<' :: inner)
      = { context ('<' :: inner) with enclosing := enclosingElement before }

whatever stands before the last `<`, be it the half of another tag. Where no `<` stands behind the
last `>` there is no tag being typed, and only the open elements are left (`context_settled`).
-/

namespace TagLens.Cursor

open Markup (tokens_append_of_not_mem)

theorem isInsideTag_of_not_mem {inner : Text} (hlt : '<' ∉ inner) (hgt : '>' ∉ inner) :
    ∀ c ∈ inner, isInsideTag c = true := by
  intro c hc
  have hne : c ≠ '<' ∧ c ≠ '>' := by
    constructor
    · rintro rfl
      exact hlt hc
    · rintro rfl
      exact hgt hc
  simp [isInsideTag, hne]

/-- Without a `>` nothing is opened or closed, whether the text before ends inside a tag or not. -/
theorem enclosingElement_append {rest : Text} (before : Text) (h : '>' ∉ rest) :
    enclosingElement (before ++ rest) = enclosingElement before := by
  rw [enclosingElement, enclosingElement, Markup.nesting, Markup.nesting,
    tokens_append_of_not_mem before h]

theorem context_append_tag {inner : Text} (before : Text) (hlt : '<' ∉ inner)
    (hgt : '>' ∉ inner) :
    context (before ++ '<' :: inner)
      = { context ('<' :: inner) with enclosing := enclosingElement before } := by
  have hinside := isInsideTag_of_not_mem hlt hgt
  have hkind : classify (before ++ '<' :: inner) = classify ('<' :: inner) :=
    (classify_tag before hinside).trans (classify_tag [] hinside).symm
  have htag : unterminatedTag? (before ++ '<' :: inner) = unterminatedTag? ('<' :: inner) :=
    (unterminatedTag?_append before hinside).trans (unterminatedTag?_append [] hinside).symm
  have henclosing : enclosingElement (before ++ '<' :: inner) = enclosingElement before :=
    enclosingElement_append before (by simpa using hgt)
  simp only [context, hkind, htag, henclosing]

/-! ## No tag being typed -/

/-- The text up to the last `>` has no unterminated tag, and text without `<` adds none. -/
theorem unterminatedTag?_eq_none {text : Text} (h : '<' ∉ text.rtakeWhile (· != '>')) :
    unterminatedTag? text = none := by
  have hfront : unterminatedTag? (text.rdropWhile (· != '>')) = none := by
    by_cases hnil : text.rdropWhile (· != '>') = []
    · rw [hnil]
      rfl
    · apply unterminatedTag?_of_getLast?
      have hlast := List.rdropWhile_last_not (· != '>') text hnil
      rw [List.getLast?_eq_some_getLast hnil]
      simpa using hlast
  have hwhole := unterminatedTag?_append_text hfront h
  rwa [List.rdropWhile_append_rtakeWhile] at hwhole

theorem context_settled {text : Text} (h : unterminatedTag? text = none) :
    context text
      = { kind := .none, enclosing := enclosingElement text, tag := none, attr := none,
          existing := [] } := by
  simp [context, classify_settled h]

/-- **The surroundings factor at the last tag.** Behind the last `<` they are those of the tag being
typed, but for the enclosing element, which is that of the text before; and where no `<` stands
behind the last `>` they are the enclosing element alone. -/
theorem context_factors :
    (∀ before inner : Text, '<' ∉ inner → '>' ∉ inner →
      context (before ++ '<' :: inner)
        = { context ('<' :: inner) with enclosing := enclosingElement before })
      ∧ ∀ text : Text, '<' ∉ text.rtakeWhile (· != '>') →
        context text
          = { kind := .none, enclosing := enclosingElement text, tag := none, attr := none,
              existing := [] } := by
  refine ⟨?_, ?_⟩
  · intro before inner hlt hgt
    exact context_append_tag before hlt hgt
  · intro text h
    exact context_settled (unterminatedTag?_eq_none h)

/-- An open element, and then the half of a tag with a value that is left open. -/
def halfTag : Text := "<a><b x='".toList

/-- A second tag typed inside the first, up to its blank space and then up to the text behind its
`>`, which finishes the first tag instead. -/
theorem context_factors_halfTag :
    context (halfTag ++ '<' :: "c y=\"1\" ".toList)
        = { kind := .attributeName, enclosing := ['a'], tag := some ['c'], attr := none,
            existing := [['y']] }
      ∧ context (halfTag ++ "<c y=\"1\" > z".toList)
        = { kind := .none, enclosing := ['b'], tag := none, attr := none, existing := [] } := by
  obtain ⟨htyped, hsettled⟩ := context_factors
  constructor
  · rw [htyped halfTag "c y=\"1\" ".toList (by decide) (by decide)]
    decide +kernel
  · rw [hsettled (halfTag ++ "<c y=\"1\" > z".toList) (by decide)]
    decide +kernel

end TagLens.Cursor
