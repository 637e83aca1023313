import TagLens.Proofs.Markup.Content
import TagLens.Proofs.Markup.Unquoted

/-!
# Tags as far as they have been typed

A tag that is being typed begins with `<` and a name. Attributes follow, with blank space around
their equals signs where the author likes it, and perhaps the beginning of another name. The
attributes already written are found in two passes: the quoted values are taken away, and in what
is left the names in front of an equals sign are read.

Taking a value away brings the text around it together, but what comes together there is an equals
sign and the blank space in front of the next name, and no name reaches over these. So the two
passes find the names of the attributes and nothing else, whatever the values say
(`TypedTag.assignedNames_text`).
-/

namespace TagLens.Markup

open Text (isBlank isQuote occurrences occurrences_skip occurrences_skip_of_forall occurrences_hit)

/-! ## Attributes with space around the equals sign -/

/-- An attribute with blank space before and behind its equals sign. -/
structure SpacedAttribute extends Attribute where
  before : Space
  after : Space

namespace SpacedAttribute

/-- The attribute up to its value. -/
def lead (attr : SpacedAttribute) : Text :=
  attr.gap ++ (attr.name ++ (attr.before.chars ++ '=' :: attr.after.chars))

/-- The attribute written down. -/
def text (attr : SpacedAttribute) : Text :=
  attr.lead ++ attr.quote :: (attr.value ++ [attr.quote])

end SpacedAttribute

/-- A tag as far as it has been typed. The word at its end is the beginning of a further attribute's
name, if there is one. -/
structure TypedTag where
  name : Text
  attributes : List SpacedAttribute
  space : Space
  word : Text
  isName : IsName name
  word_isNameChar : ∀ c ∈ word, isNameChar c = true

def TypedTag.text (tag : TypedTag) : Text :=
  '<' :: (tag.name ++ (tag.attributes.flatMap SpacedAttribute.text
    ++ (tag.space.chars ++ tag.word)))

/-! ## Reading a name in front of an equals sign -/

section

variable {name blanks : Text}

theorem endsName_blanks (hblanks : ∀ c ∈ blanks, isBlank c = true) (rest : Text) :
    EndsName (blanks ++ '=' :: rest) := by
  intro c hc
  cases blanks with
  | nil =>
      obtain rfl : '=' = c := by simpa using hc
      decide
  | cons d blanks =>
      obtain rfl : d = c := by simpa using hc
      exact isNameChar_of_isBlank (hblanks d (by simp))

theorem dropWhile_isBlank_append (hblanks : ∀ c ∈ blanks, isBlank c = true) {c : Char}
    (hc : isBlank c = false) (rest : Text) :
    (blanks ++ c :: rest).dropWhile isBlank = c :: rest := by
  rw [List.dropWhile_append_of_pos hblanks, List.dropWhile_cons_of_neg (by simp [hc])]

/-- A name, blank space and an equals sign are read as an assignment. -/
theorem readAssignment_append (h : IsName name) (hblanks : ∀ c ∈ blanks, isBlank c = true)
    (rest : Text) :
    readAssignment (name ++ (blanks ++ '=' :: rest))
      = some (name, name.length + blanks.length + 1) := by
  have htake : blanksAt (blanks ++ '=' :: rest) = blanks := by
    rw [blanksAt, List.takeWhile_append_of_pos hblanks, List.takeWhile_cons_of_neg (by decide),
      List.append_nil]
  rw [readAssignment, nameAt?_append h (endsName_blanks hblanks rest)]
  simp only [List.drop_left, htake, ← List.drop_drop]

/-- And nothing else is. -/
theorem exists_of_readAssignment_eq_some {text : Text} {n : Nat}
    (h : readAssignment text = some (name, n)) :
    ∃ blanks rest, text = name ++ (blanks ++ '=' :: rest) ∧ IsName name
      ∧ (∀ c ∈ blanks, isBlank c = true) ∧ n = name.length + blanks.length + 1 := by
  rw [readAssignment] at h
  split at h
  · exact absurd h (by simp)
  · next found hname =>
      simp only at h
      split at h
      · next rest hrest =>
          obtain ⟨rfl, rfl⟩ := Prod.mk.inj (Option.some.inj h)
          obtain ⟨hfound, hdrop, hisName⟩ := eq_of_nameAt?_eq_some hname
          have hblanks : blanksAt (text.drop found.length)
              ++ (text.drop found.length).dropWhile isBlank = text.drop found.length :=
            List.takeWhile_append_dropWhile
          have hequals : (text.drop found.length).dropWhile isBlank = '=' :: rest := by
            rw [← List.drop_drop] at hrest
            nth_rewrite 2 [← hblanks] at hrest
            rwa [List.drop_left] at hrest
          refine ⟨blanksAt (text.drop found.length), rest, ?_, hisName, ?_, rfl⟩
          · rw [← hequals, hblanks, hdrop, hfound, List.takeWhile_append_dropWhile]
          · intro c hc
            exact List.mem_takeWhile_imp hc
      · exact absurd h (by simp)

/-- Nothing is assigned where no equals sign follows the name characters and the blank space at the
head of the text. -/
theorem readAssignment_eq_none {text : Text}
    (h : ((text.dropWhile isNameChar).dropWhile isBlank).head? ≠ some '=') :
    readAssignment text = none := by
  by_contra hsome
  obtain ⟨⟨name, n⟩, hread⟩ := Option.ne_none_iff_exists'.mp hsome
  obtain ⟨blanks, rest, rfl, hname, hblanks, -⟩ := exists_of_readAssignment_eq_some hread
  apply h
  rw [dropWhile_isNameChar_append (fun c hc => hname.isNameChar_of_mem hc)
    (endsName_blanks hblanks rest), dropWhile_isBlank_append hblanks (by decide)]
  rfl

theorem readAssignment_cons {c : Char} (rest : Text) (hc : isNameChar c = false) :
    readAssignment (c :: rest) = none := by
  rw [readAssignment, nameAt?_eq_none (isNameStart_of_isNameChar_eq_false hc)]

theorem readAssignment_eq_none_of_not_mem {text : Text} (h : '=' ∉ text) :
    readAssignment text = none := by
  by_contra hsome
  obtain ⟨⟨name, n⟩, hread⟩ := Option.ne_none_iff_exists'.mp hsome
  obtain ⟨blanks, rest, rfl, -⟩ := exists_of_readAssignment_eq_some hread
  exact h (by simp)

/-- The blank space in front of an attribute ends a name. -/
theorem SpacedAttribute.endsName_lead (attr : SpacedAttribute) (rest : Text) :
    EndsName (attr.lead ++ rest) := by
  obtain ⟨d, gap, hgap⟩ := List.exists_cons_of_ne_nil attr.gap_ne_nil
  intro c hc
  obtain rfl : d = c := by simpa [SpacedAttribute.lead, hgap] using hc
  exact isNameChar_of_isBlank (attr.gap_blank d (by simp [hgap]))

/-- No name is in front of an equals sign when an attribute follows: behind the blank space that
ends the name stands another name. -/
theorem readAssignment_append_lead {tail : Text} (htail : ∀ c ∈ tail, isNameChar c = true)
    (attr : SpacedAttribute) (rest : Text) : readAssignment (tail ++ (attr.lead ++ rest)) = none := by
  obtain ⟨e, more, hname⟩ := List.exists_cons_of_ne_nil attr.isName.ne_nil
  have he : isNameChar e = true := attr.isName.isNameChar_of_mem (by simp [hname])
  have htext : attr.lead ++ rest
      = attr.gap ++ e :: (more ++ (attr.before.chars ++ '=' :: attr.after.chars) ++ rest) := by
    simp [SpacedAttribute.lead, hname]
  apply readAssignment_eq_none
  rw [dropWhile_isNameChar_append htail (attr.endsName_lead rest), htext,
    dropWhile_isBlank_append attr.gap_blank (isBlank_of_isNameChar he)]
  intro hequals
  obtain rfl : e = '=' := by simpa using hequals
  exact absurd he (by decide)

end

/-! ## Taking the values away -/

theorem isQuote_of_isDelimiter {c : Char} (h : isDelimiter c = false) : isQuote c = false := by
  simp only [isDelimiter, Bool.or_eq_false_iff] at h
  exact h.2

theorem isQuote_of_isBlank {c : Char} (h : isBlank c = true) : isQuote c = false :=
  isQuote_of_isDelimiter (isDelimiter_of_isBlank h)

theorem isQuote_of_isNameChar {c : Char} (h : isNameChar c = true) : isQuote c = false :=
  isQuote_of_isDelimiter (isDelimiter_of_isNameChar h)

/-- Up to its value an attribute is blank space, a name and an equals sign. -/
theorem SpacedAttribute.mem_lead {attr : SpacedAttribute} {c : Char} (h : c ∈ attr.lead) :
    isBlank c = true ∨ isNameChar c = true ∨ c = '=' := by
  simp only [SpacedAttribute.lead, List.mem_append, List.mem_cons] at h
  rcases h with h | h | h | h | h
  · exact .inl (attr.gap_blank c h)
  · exact .inr (.inl (attr.isName.isNameChar_of_mem h))
  · exact .inl (attr.before.blank c h)
  · exact .inr (.inr h)
  · exact .inl (attr.after.blank c h)

theorem SpacedAttribute.isQuote_of_mem_lead (attr : SpacedAttribute) {c : Char}
    (h : c ∈ attr.lead) : Text.isQuote c = false := by
  rcases mem_lead h with hblank | hname | rfl
  · exact isQuote_of_isBlank hblank
  · exact isQuote_of_isNameChar hname
  · decide

theorem SpacedAttribute.ne_of_mem_lead {attr : SpacedAttribute} {c : Char} (h : c ∈ attr.lead) :
    c ≠ '<' ∧ c ≠ '>' := by
  rcases mem_lead h with h | h | rfl
  · constructor <;> rintro rfl <;> exact absurd h (by decide)
  · constructor <;> rintro rfl <;> exact absurd h (by decide)
  · decide

theorem ne_of_isQuote {c : Char} (h : isQuote c = true) : c ≠ '<' ∧ c ≠ '>' := by
  constructor <;> rintro rfl <;> exact absurd h (by decide)

/-- Neither end of a tag stands in an attribute, unless it stands in the value. -/
theorem SpacedAttribute.ne_of_mem_text {attr : SpacedAttribute}
    (hvalue : ∀ c ∈ attr.value, c ≠ '<' ∧ c ≠ '>') {c : Char} (h : c ∈ attr.text) :
    c ≠ '<' ∧ c ≠ '>' := by
  simp only [SpacedAttribute.text, List.mem_append, List.mem_cons, List.not_mem_nil, or_false] at h
  rcases h with hlead | rfl | hmem | rfl
  · exact ne_of_mem_lead hlead
  · exact ne_of_isQuote attr.isQuote
  · exact hvalue c hmem
  · exact ne_of_isQuote attr.isQuote

/-- Of an attribute everything but its value is left. -/
theorem unquoted_attribute (attr : SpacedAttribute) (rest : Text) :
    unquoted (attr.text ++ rest) = attr.lead ++ unquoted rest := by
  have htext : attr.text ++ rest
      = attr.lead ++ attr.quote :: (attr.value ++ attr.quote :: rest) := by
    simp [SpacedAttribute.text]
  rw [htext, unquoted_append fun c hc => attr.isQuote_of_mem_lead hc,
    unquoted_value attr.isQuote attr.not_mem_value]

theorem unquoted_attributes (attributes : List SpacedAttribute) (rest : Text) :
    unquoted (attributes.flatMap SpacedAttribute.text ++ rest)
      = attributes.flatMap SpacedAttribute.lead ++ unquoted rest := by
  induction attributes with
  | nil => rfl
  | cons attr attributes ih =>
      rw [List.flatMap_cons, List.flatMap_cons, List.append_assoc, unquoted_attribute, ih,
        List.append_assoc]

/-! ## Reading the names -/

theorem values_leads (attributes : List SpacedAttribute) (offset : Nat) (rest : Text) :
    (occurrences readAssignment offset
        (attributes.flatMap SpacedAttribute.lead ++ rest)).map (·.value)
      = attributes.map (·.name)
        ++ (occurrences readAssignment
            (offset + (attributes.flatMap SpacedAttribute.lead).length) rest).map (·.value) := by
  have hblank : ∀ {blanks : Text}, (∀ c ∈ blanks, isBlank c = true) → ∀ c ∈ blanks, ∀ tail,
      readAssignment (c :: tail) = none := by
    intro blanks hblanks c hc tail
    exact readAssignment_cons tail (isNameChar_of_isBlank (hblanks c hc))
  induction attributes generalizing offset with
  | nil => rfl
  | cons attr attributes ih =>
      let assigned := attr.name ++ (attr.before.chars ++ ['='])
      have hread : ∀ rest, readAssignment (assigned ++ rest)
          = some (attr.name, assigned.length) := by
        intro rest
        have happend := readAssignment_append attr.isName attr.before.blank rest
        simpa [assigned, Nat.add_assoc] using happend
      have htext : (attr :: attributes).flatMap SpacedAttribute.lead ++ rest
          = attr.gap ++ (assigned ++ (attr.after.chars
            ++ (attributes.flatMap SpacedAttribute.lead ++ rest))) := by
        simp [SpacedAttribute.lead, assigned]
      have hlength : ((attr :: attributes).flatMap SpacedAttribute.lead).length
          = attr.gap.length + assigned.length + attr.after.chars.length
            + (attributes.flatMap SpacedAttribute.lead).length := by
        simp only [assigned, List.flatMap_cons, SpacedAttribute.lead, List.length_append,
          List.length_cons, List.length_nil]
        omega
      -- the gap is passed over, the name is read, the space behind the equals sign is passed over
      rw [htext, occurrences_skip_of_forall _ _ (hblank attr.gap_blank),
        occurrences_hit _ _ (by simp [assigned]) (hread _),
        occurrences_skip_of_forall _ _ (hblank attr.after.blank), List.map_cons, ih, List.map_cons,
        hlength]
      simp only [List.cons_append, Nat.add_assoc]

namespace TypedTag

variable (tag : TypedTag)

theorem unquoted_text :
    unquoted tag.text
      = ['<'] ++ (tag.name ++ (tag.attributes.flatMap SpacedAttribute.lead
        ++ (tag.space.chars ++ tag.word))) := by
  have hname : ∀ c ∈ '<' :: tag.name, isQuote c = false := by
    rw [List.forall_mem_cons]
    exact ⟨by decide, fun c hc => isQuote_of_isNameChar (tag.isName.isNameChar_of_mem hc)⟩
  have hend : ∀ c ∈ tag.space.chars ++ tag.word, isQuote c = false := by
    intro c hc
    rcases List.mem_append.mp hc with hc | hc
    · exact isQuote_of_isBlank (tag.space.blank c hc)
    · exact isQuote_of_isNameChar (tag.word_isNameChar c hc)
  have hrest : unquoted (tag.space.chars ++ tag.word) = tag.space.chars ++ tag.word := by
    have happend := unquoted_append hend []
    simpa [unquoted] using happend
  rw [text, ← List.cons_append, unquoted_append hname, unquoted_attributes, hrest]
  rfl

/-- Behind the attributes there is no equals sign. -/
theorem eq_not_mem_end : '=' ∉ tag.space.chars ++ tag.word := by
  intro h
  rcases List.mem_append.mp h with h | h
  · exact absurd (tag.space.blank _ h) (by decide)
  · exact absurd (tag.word_isNameChar _ h) (by decide)

/-- The element's own name assigns nothing. -/
theorem readAssignment_elementName {tail : Text} (htail : ∀ c ∈ tail, isNameChar c = true) :
    readAssignment (tail ++ (tag.attributes.flatMap SpacedAttribute.lead
      ++ (tag.space.chars ++ tag.word))) = none := by
  cases hattrs : tag.attributes with
  | nil =>
      apply readAssignment_eq_none_of_not_mem
      intro h
      rcases List.mem_append.mp h with h | h
      · exact absurd (htail _ h) (by decide)
      · exact tag.eq_not_mem_end h
  | cons attr more =>
      rw [List.flatMap_cons, List.append_assoc]
      exact readAssignment_append_lead htail attr _

theorem occurrences_end (offset : Nat) :
    occurrences readAssignment offset (tag.space.chars ++ tag.word) = [] := by
  apply Text.occurrences_eq_nil
  intro before tail hsplit _
  apply readAssignment_eq_none_of_not_mem
  intro h
  exact tag.eq_not_mem_end (by simp [hsplit, h])

/-- **Names read**: what a tag assigns are the names of its attributes, in the order of the tag and
each once, whatever the values and the word at the end say. -/
theorem assignedNames_text :
    assignedNames tag.text = (tag.attributes.map (·.name)).eraseDups := by
  have hopen : ∀ c ∈ ['<'], ∀ tail, readAssignment (c :: tail) = none := by
    intro c hc tail
    obtain rfl : c = '<' := by simpa using hc
    exact readAssignment_cons tail (by decide)
  have hname : ∀ before tail, tag.name = before ++ tail → tail ≠ [] →
      readAssignment (tail ++ (tag.attributes.flatMap SpacedAttribute.lead
        ++ (tag.space.chars ++ tag.word))) = none := by
    intro before tail hsplit _
    apply tag.readAssignment_elementName
    intro c hc
    exact tag.isName.isNameChar_of_mem (by simp [hsplit, hc])
  rw [assignedNames, unquoted_text, occurrences_skip_of_forall _ _ hopen,
    occurrences_skip _ _ hname, values_leads, occurrences_end]
  simp

end TypedTag

end TagLens.Markup
