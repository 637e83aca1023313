import TagLens.Proofs.Markup.TypedTag

/-!
# The names that a tag assigns

There are two ways to ask which attributes a tag has. `assignedNames` reads names in front of an
equals sign outside of the quoted values, and for a tag it finds the names of its attributes
(`StartTag.assignedNames_headText`). The other way is to look for the name and an equals sign
anywhere in the raw text. That finds more (`StartTag.assignment_infix_iff`): names that the name of
an attribute merely ends in, and what a value says.
-/

namespace TagLens.Markup

open Text (isBlank isQuote)

/-! ## Reading the names of a tag -/

/-- An attribute without space around its equals sign. -/
def Attribute.spaced (attr : Attribute) : SpacedAttribute := ⟨attr, noSpace, noSpace⟩

theorem Attribute.text_spaced (attr : Attribute) : attr.spaced.text = attr.text := by
  simp [Attribute.spaced, SpacedAttribute.text, SpacedAttribute.lead, noSpace, Attribute.text]

namespace StartTag

/-- The tag up to its end. -/
def headText (tag : StartTag) : Text := '<' :: (tag.name ++ tag.body)

/-- The tag as it is being typed, up to its end. -/
def typed (tag : StartTag) : TypedTag where
  name := tag.name
  attributes := tag.attributes.map Attribute.spaced
  space := tag.space
  word := []
  isName := tag.isName
  word_isNameChar := by simp

theorem text_typed (tag : StartTag) : tag.typed.text = tag.headText := by
  have hattributes : (tag.attributes.map Attribute.spaced).flatMap SpacedAttribute.text
      = tag.attributes.flatMap Attribute.text := by
    rw [List.flatMap_map]
    exact List.flatMap_congr fun attr _ => attr.text_spaced
  simp only [TypedTag.text, typed, hattributes, headText, body, List.append_nil]

/-- **Names read**: a tag assigns the names of its attributes. -/
theorem assignedNames_headText (tag : StartTag) :
    assignedNames tag.headText = (tag.attributes.map (·.name)).eraseDups := by
  rw [← text_typed, TypedTag.assignedNames_text, typed, List.map_map]
  rfl

end StartTag

/-! ## Looking for a name and an equals sign -/

/-- The attribute seems to assign the name, to a reader of the raw text: its own name ends in it, or
its value holds the name and an equals sign. -/
def Attribute.Shows (attr : Attribute) (name : Text) : Prop :=
  name <:+ attr.name ∨ name ++ ['='] <:+: attr.value

instance (attr : Attribute) (name : Text) : Decidable (attr.Shows name) :=
  inferInstanceAs (Decidable (_ ∨ _))

section

variable {name : Text}

theorem not_mem_assignment (h : IsName name) {c : Char} (hc : isNameChar c = false)
    (hne : c ≠ '=') : c ∉ name ++ ['='] := by
  simp [h.not_mem hc, hne]

/-- The equals sign behind a name is the only one, so what is found there ends with it. -/
theorem assignment_infix_assignment {other : Text} (h : '=' ∉ other) :
    name ++ ['='] <:+: other ++ ['='] ↔ name <:+ other := by
  constructor
  · rintro ⟨front, back, heq⟩
    rcases List.eq_nil_or_concat back with rfl | ⟨init, c, rfl⟩
    · refine ⟨front, ?_⟩
      rw [List.append_nil, ← List.append_assoc] at heq
      exact (List.append_inj_left' heq rfl)
    · rw [List.concat_eq_append, ← List.append_assoc] at heq
      have hmem := List.append_inj_left' heq rfl
      exact absurd (by rw [← hmem]; simp) h
  · rintro ⟨front, rfl⟩
    exact ⟨front, [], by simp⟩

theorem assignment_infix_skip (h : IsName name) {piece : Text}
    (hpiece : ∀ c ∈ piece, isNameChar c = false ∧ c ≠ '=') (rest : Text) :
    name ++ ['='] <:+: piece ++ rest ↔ name ++ ['='] <:+: rest := by
  induction piece with
  | nil => rfl
  | cons c piece ih =>
      obtain ⟨⟨hc, hne⟩, hpiece⟩ := List.forall_mem_cons.mp hpiece
      rw [List.cons_append,
        Text.infix_cons_iff_of_not_mem (not_mem_assignment h hc hne) (by simp), ih hpiece]

theorem outside_of_isBlank {c : Char} (h : isBlank c = true) :
    isNameChar c = false ∧ c ≠ '=' := by
  refine ⟨isNameChar_of_isBlank h, ?_⟩
  rintro rfl
  exact absurd h (by decide)

/-- The quotes of an attribute separate its name, its value and what follows. -/
theorem assignment_infix_attribute (h : IsName name) (attr : Attribute) (rest : Text) :
    name ++ ['='] <:+: attr.text ++ rest ↔ attr.Shows name ∨ name ++ ['='] <:+: rest := by
  have hquote : attr.quote ∉ name ++ ['='] := by
    apply not_mem_assignment h
    · exact isNameChar_of_isDelimiter (by simp [isDelimiter, attr.isQuote])
    · intro heq
      exact absurd attr.isQuote (by rw [heq]; decide)
  have htext : attr.text ++ rest = attr.gap
      ++ ((attr.name ++ ['=']) ++ attr.quote :: (attr.value ++ attr.quote :: rest)) := by
    simp [Attribute.text]
  rw [htext, assignment_infix_skip h fun c hc => outside_of_isBlank (attr.gap_blank c hc),
    Text.infix_append_cons_iff hquote, Text.infix_append_cons_iff hquote,
    assignment_infix_assignment (attr.isName.not_mem (by decide)), Attribute.Shows, or_assoc]

theorem assignment_infix_attributes (h : IsName name) (attributes : List Attribute) (rest : Text) :
    name ++ ['='] <:+: attributes.flatMap Attribute.text ++ rest
      ↔ (∃ attr ∈ attributes, attr.Shows name) ∨ name ++ ['='] <:+: rest := by
  induction attributes with
  | nil => simp
  | cons attr attributes ih =>
      rw [List.flatMap_cons, List.append_assoc, assignment_infix_attribute h, ih,
        List.exists_mem_cons_iff, or_assoc]

/-- **Names found**: the name and an equals sign stand in a tag exactly when some attribute shows
the name. -/
theorem StartTag.assignment_infix_iff (h : IsName name) (tag : StartTag) :
    name ++ ['='] <:+: tag.openText ↔ ∃ attr ∈ tag.attributes, attr.Shows name := by
  have hend : ∀ c ∈ tag.space.chars ++ ['>'], isNameChar c = false ∧ c ≠ '=' := by
    intro c hc
    rcases List.mem_append.mp hc with hc | hc
    · exact outside_of_isBlank (tag.space.blank c hc)
    · obtain rfl : c = '>' := by simpa using hc
      decide
  -- the body begins with a character that keeps the element's own name apart
  obtain ⟨c, tail, hbody, hc⟩ : ∃ c tail, tag.body ++ ['>'] = c :: tail
      ∧ isNameChar c = false ∧ c ≠ '=' := by
    cases hbody : tag.body with
    | nil => exact ⟨'>', [], rfl, by decide, by decide⟩
    | cons c tail =>
        have hhead : c ∈ tag.body.head? := by simp [hbody]
        have hblank := StartTag.head?_body hhead
        exact ⟨c, tail ++ ['>'], rfl, outside_of_isBlank hblank⟩
  have hsep := not_mem_assignment h hc.1 hc.2
  have hopen : '<' ∉ name ++ ['='] := not_mem_assignment h (by decide) (by decide)
  have hname : ¬ name ++ ['='] <:+: tag.name := by
    intro hfound
    exact tag.isName.not_mem (c := '=') (by decide) (hfound.subset (by simp))
  have hnothing : ¬ name ++ ['='] <:+: tag.space.chars ++ ['>'] := by
    rw [← List.append_nil (tag.space.chars ++ ['>']), assignment_infix_skip h hend]
    simp
  calc name ++ ['='] <:+: tag.openText
      ↔ name ++ ['='] <:+: tag.name ++ (tag.body ++ ['>']) :=
        Text.infix_cons_iff_of_not_mem hopen (by simp)
    _ ↔ name ++ ['='] <:+: tag.body ++ ['>'] := by
        rw [hbody, Text.infix_append_cons_iff hsep,
          Text.infix_cons_iff_of_not_mem hsep (by simp), or_iff_right hname]
    _ ↔ ∃ attr ∈ tag.attributes, attr.Shows name := by
        rw [StartTag.body, List.append_assoc, assignment_infix_attributes h,
          or_iff_left hnothing]

end

end TagLens.Markup
