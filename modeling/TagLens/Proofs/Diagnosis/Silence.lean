import TagLens.Diagnosis.Validator
import TagLens.Proofs.Markup.AssignedValue

/-!
# Documents without findings

`Conforms` says what a schema asks of a tag: its element is known, the attributes the element
cannot do without are there, and every value is acceptable. The checks of the raw text have
nothing to say about a document whose tags conform, whose tags lie on one line each, and which
holds its root element and no equals sign outside of tags (`validate_of_conforms`).

The argument has two halves. `LineConforms` says what keeps the checks of one line silent, and
`lineConforms_textOf` says that a row of pieces with conforming tags is such a line.

A line that is too long for the protocol's positions, or too far down, cannot be reported about
at all; then validation fails as a whole. `Quiet` keeps track of this.
-/

namespace TagLens.Diagnosis

open Document (Position Range Quantity OutOfBounds)
open Markup (IsName Content StartTag Piece openings mentions readValue textOf startTags noSpace
  noData)
open Text (occurrences lines doubleQuote singleQuote)

/-! ## What a schema asks of a document -/

/-- An ASCII letter or underscore, then ASCII letters, digits and underscores. -/
def IsIdentifier : Text → Prop
  | [] => False
  | c :: rest => (c.isAlpha = true ∨ c = '_') ∧ ∀ d ∈ rest, d.isAlphanum = true ∨ d = '_'

instance : (value : Text) → Decidable (IsIdentifier value)
  | [] => inferInstanceAs (Decidable False)
  | c :: rest => decidable_of_iff
      ((c.isAlpha || c == '_') = true ∧ (rest.all fun d => d.isAlphanum || d == '_') = true)
      (by simp [IsIdentifier])

/-- The word true or the word false, each letter large or small. -/
def SpellsTruth (value : Text) : Prop :=
  value.map Char.toLower = "true".toList ∨ value.map Char.toLower = "false".toList

instance (value : Text) : Decidable (SpellsTruth value) := inferInstanceAs (Decidable (_ ∨ _))

/-- The attribute may take the value. -/
structure Accepts (schema : Schema) (attr value : Text) : Prop where
  domain : ∀ domain ∈ schema.domainOf? attr, value ∈ domain
  identifier : schema.isPattern attr = true → IsIdentifier value
  truth : schema.isBoolean attr = true → SpellsTruth value

instance (schema : Schema) (attr value : Text) : Decidable (Accepts schema attr value) :=
  decidable_of_iff
    ((∀ domain ∈ schema.domainOf? attr, value ∈ domain)
      ∧ (schema.isPattern attr = true → IsIdentifier value)
      ∧ (schema.isBoolean attr = true → SpellsTruth value))
    ⟨fun h => ⟨h.1, h.2.1, h.2.2⟩, fun h => ⟨h.domain, h.identifier, h.truth⟩⟩

/-- The tag begins a known element, with all the attributes the element requires and with
acceptable values; an empty value is always acceptable. -/
structure Conforms (schema : Schema) (tag : StartTag) : Prop where
  known : schema.isKnown tag.name = true
  required : ∀ attr ∈ schema.requiredOf tag.name, attr ∈ tag.attributes.map (·.name)
  values : ∀ attr ∈ tag.attributes, attr.value ≠ [] → Accepts schema attr.name attr.value

instance (schema : Schema) (tag : StartTag) : Decidable (Conforms schema tag) :=
  decidable_of_iff
    (schema.isKnown tag.name = true
      ∧ (∀ attr ∈ schema.requiredOf tag.name, attr ∈ tag.attributes.map (·.name))
      ∧ ∀ attr ∈ tag.attributes, attr.value ≠ [] → Accepts schema attr.name attr.value)
    ⟨fun h => ⟨h.1, h.2.1, h.2.2⟩, fun h => ⟨h.known, h.required, h.values⟩⟩

/-! ## Values -/

/-- What is overlooked at the end of a value is a line feed, so nothing is in a value without. -/
theorem isIdentifier_iff {value : Text} (h : '\n' ∉ value) :
    isIdentifier value = true ↔ IsIdentifier value := by
  cases value with
  | nil => simp [isIdentifier, IsIdentifier]
  | cons c rest =>
      have hlast : rest.getLast? ≠ some '\n' := by
        intro hlast
        exact h (List.mem_cons_of_mem c (List.mem_of_getLast? hlast))
      rw [isIdentifier, if_neg hlast]
      simp [IsIdentifier]

theorem IsIdentifier.newline_not_mem {value : Text} (h : IsIdentifier value) : '\n' ∉ value := by
  cases value with
  | nil => simp
  | cons c rest =>
      obtain ⟨hc, hrest⟩ := h
      intro hmem
      rcases List.mem_cons.mp hmem with rfl | hmem
      · exact absurd hc (by decide)
      · exact absurd (hrest '\n' hmem) (by decide)

theorem isIdentifier_of_isIdentifier {value : Text} (h : IsIdentifier value) :
    isIdentifier value = true :=
  (isIdentifier_iff h.newline_not_mem).mpr h

theorem toNat_lt_of_toLower {c : Char} (h : c.toLower.toNat < 128) : c.toNat < 128 := by
  unfold Char.toLower at h
  split at h
  · next hcapital =>
      have hle : c.toNat ≤ 'Z'.toNat := hcapital.2
      exact Nat.lt_of_le_of_lt hle (by decide)
  · exact h

theorem lower_of_map_toLower {value word : Text} (hword : ∀ c ∈ word, c.toNat < 128)
    (h : value.map Char.toLower = word) : Text.lower value = word := by
  rw [Text.lower_of_ascii, h]
  intro c hc
  apply toNat_lt_of_toLower
  apply hword
  rw [← h]
  exact List.mem_map_of_mem hc

theorem isTruthValue_of_spellsTruth {value : Text} (h : SpellsTruth value) :
    isTruthValue value = true := by
  rw [isTruthValue, Bool.or_eq_true, beq_iff_eq, beq_iff_eq]
  rcases h with h | h
  · exact .inl (lower_of_map_toLower (by simp) h)
  · exact .inr (lower_of_map_toLower (by simp) h)

theorem valueProblems_of_accepts {validator : Validator} {attr value : Text}
    (h : Accepts validator.schema attr value) : validator.valueProblems attr value = [] := by
  have hpattern : (validator.schema.isPattern attr && !isIdentifier value) = false := by
    cases hattr : validator.schema.isPattern attr with
    | false => rfl
    | true => simp [isIdentifier_of_isIdentifier (h.identifier hattr)]
  have hboolean : (validator.schema.isBoolean attr && !isTruthValue value) = false := by
    cases hattr : validator.schema.isBoolean attr with
    | false => rfl
    | true => simp [isTruthValue_of_spellsTruth (h.truth hattr)]
  rw [Validator.valueProblems]
  simp only [hpattern, hboolean]
  cases hdomain : validator.schema.domainOf? attr with
  | none => rfl
  | some domain =>
      have hmem : value ∈ domain := h.domain domain hdomain
      simp [hmem]

/-! ## What can be reported about -/

/-- The place lies within what a position may hold. -/
def Reachable (line column : Nat) : Prop :=
  (line : Int) ≤ Quantity.line.greatest ∧ (column : Int) ≤ Quantity.character.greatest

instance (line column : Nat) : Decidable (Reachable line column) :=
  inferInstanceAs (Decidable (_ ∧ _))

/-- The end of every line lies within what a position may hold. -/
def Addressable (text : Text) : Prop :=
  ∀ entry ∈ (lines text).zipIdx, Reachable entry.2 entry.1.length

/-- Only texts beyond the greatest column can hold lines out of reach. -/
theorem addressable_of_length_le {text : Text} (h : text.length ≤ 2147483647) :
    Addressable text := by
  rintro ⟨line, index⟩ hentry
  have hline : line.length ≤ text.length :=
    Text.length_le_of_mem_lines (List.fst_mem_of_mem_zipIdx hentry)
  have hindex : index < (lines text).length := by
    simpa using List.snd_lt_of_mem_zipIdx hentry
  have hcount : text.count '\n' ≤ text.length := List.count_le_length
  rw [Text.length_lines] at hindex
  simp only [Reachable, Quantity.greatest]
  omega

theorem bounded_of_reachable {line first last : Nat} (h : Reachable line last)
    (hle : first ≤ last) :
    (Range.onLine line first last).bounded = .ok (Range.onLine line first last) := by
  obtain ⟨hline, hlast⟩ := h
  have hfirst : (first : Int) ≤ Quantity.character.greatest :=
    Int.le_trans (Int.ofNat_le.mpr hle) hlast
  simp only [Range.bounded, Range.onLine, Position.bounded, Quantity.bounded, Quantity.least,
    hline, hfirst, hlast, Int.natCast_nonneg, and_self, if_true]
  rfl

theorem bounded_of_not_reachable {line last : Nat} (h : ¬ Reachable line last) :
    ∃ fault, (Range.onLine line 0 last).bounded = .error fault := by
  have hzero : (0 : Int) ≤ Quantity.character.greatest := by decide
  by_cases hline : (line : Int) ≤ Quantity.line.greatest
  · have hlast : ¬ (last : Int) ≤ Quantity.character.greatest := fun hlast => h ⟨hline, hlast⟩
    refine ⟨⟨.character, last⟩, ?_⟩
    simp only [Range.bounded, Range.onLine, Position.bounded, Quantity.bounded, Quantity.least,
      hline, hlast, hzero, Int.natCast_nonneg, Int.le_refl, and_self, and_false, if_true, if_false]
    rfl
  · refine ⟨⟨.line, line⟩, ?_⟩
    simp only [Range.bounded, Range.onLine, Position.bounded, Quantity.bounded, hline, and_false,
      if_false]
    rfl

/-- A check that has nothing to report: it succeeds without findings when everything it would
report about fits, and fails otherwise. -/
def Quiet (fits : Prop) (result : Except OutOfBounds (List Finding)) : Prop :=
  (fits ∧ result = .ok []) ∨ (¬ fits ∧ ∃ fault, result = .error fault)

/-- A quiet check never finds anything, and it succeeds exactly when everything fits. -/
theorem Quiet.eq_ok_iff {fits : Prop} {result : Except OutOfBounds (List Finding)}
    (h : Quiet fits result) :
    (result = .ok [] ↔ fits) ∧ ∀ found, result = .ok found → found = [] := by
  rcases h with ⟨hfits, rfl⟩ | ⟨hfits, fault, rfl⟩
  · refine ⟨iff_of_true rfl hfits, ?_⟩
    intro found hfound
    exact (Except.ok.inj hfound).symm
  · refine ⟨iff_of_false (by simp) hfits, ?_⟩
    intro found hfound
    exact absurd hfound (by simp)

/-- Quiet checks one after another are a quiet check. -/
theorem quiet_mapM {α : Type} {check : α → Except OutOfBounds (List Finding)} {fits : α → Prop}
    {items : List α} (h : ∀ item ∈ items, Quiet (fits item) (check item)) :
    Quiet (∀ item ∈ items, fits item) (do
      let found ← items.mapM check
      pure found.flatten) := by
  induction items with
  | nil => exact .inl ⟨by simp, rfl⟩
  | cons item items ih =>
      obtain ⟨hitem, hitems⟩ := List.forall_mem_cons.mp h
      have hrest := ih hitems
      rw [List.mapM_cons]
      rcases hitem with ⟨hfits, hok⟩ | ⟨hfits, fault, herror⟩
      · rw [hok]
        cases hmap : items.mapM check with
        | ok found =>
            rw [hmap] at hrest
            rcases hrest with ⟨hmore, hquiet⟩ | ⟨-, fault, hfailed⟩
            · exact .inl ⟨List.forall_mem_cons.mpr ⟨hfits, hmore⟩, hquiet⟩
            · exact absurd hfailed (by simp [pure, Except.pure, bind, Except.bind])
        | error fault =>
            rw [hmap] at hrest
            rcases hrest with ⟨-, hquiet⟩ | ⟨hmore, -⟩
            · exact absurd hquiet (by simp [bind, Except.bind])
            · exact .inr ⟨fun hall => hmore (List.forall_mem_cons.mp hall).2, fault, rfl⟩
      · rw [herror]
        exact .inr ⟨fun hall => hfits (List.forall_mem_cons.mp hall).1, fault, rfl⟩

/-! ## Silence about a line -/

/-- What keeps the checks of a line silent: known names, required attributes assigned somewhere on
the line, and acceptable values. -/
structure LineConforms (schema : Schema) (line : Text) : Prop where
  known : ∀ found ∈ openings line, schema.isKnown found.value = true
  assigned : ∀ element ∈ schema.elementsWithRequired, mentions element line = true →
    ∀ attr ∈ schema.requiredOf element, Text.contains (attr ++ ['=']) line = true
  values : ∀ found ∈ occurrences readValue 0 line,
    Accepts schema found.value.1 found.value.2

section

variable {validator : Validator} {line : Text}

theorem checkElements_of_known
    (h : ∀ found ∈ openings line, validator.schema.isKnown found.value = true) (index : Int) :
    validator.checkElements line index = .ok [] := by
  have hnone :
      ((openings line).filter fun found => !validator.schema.isKnown found.value) = [] := by
    rw [List.filter_eq_nil_iff]
    intro found hfound
    simp [h found hfound]
  rw [Validator.checkElements, hnone]
  rfl

theorem missingAttributes_of_assigned
    (h : ∀ element ∈ validator.schema.elementsWithRequired, mentions element line = true →
      ∀ attr ∈ validator.schema.requiredOf element, Text.contains (attr ++ ['=']) line = true) :
    validator.missingAttributes line = [] := by
  rw [Validator.missingAttributes, List.flatMap_eq_nil_iff]
  intro element helement
  obtain ⟨hrequires, hmentions⟩ := List.mem_filter.mp helement
  rw [List.map_eq_nil_iff, List.filter_eq_nil_iff]
  intro attr hattr
  simp [h element hrequires hmentions attr hattr]

/-- The range of the whole line is made even if there is no complaint to attach it to. -/
theorem checkRequired_of_missingAttributes (h : validator.missingAttributes line = [])
    (index : Nat) :
    Quiet (Reachable index line.length) (validator.checkRequired line index) := by
  rw [Validator.checkRequired, h]
  by_cases hreach : Reachable index line.length
  · have hrange : (Range.onLine index 0 line.length).bounded
        = .ok (Range.onLine index 0 line.length) :=
      bounded_of_reachable hreach (Nat.zero_le _)
    rw [hrange]
    exact .inl ⟨hreach, rfl⟩
  · obtain ⟨fault, hfault⟩ := bounded_of_not_reachable hreach
    rw [hfault]
    exact .inr ⟨hreach, fault, rfl⟩

/-- A line of any length is checked as long as its end is within reach. -/
theorem checkRequired_eq_ok_iff {index : Nat} {found : List Finding} :
    validator.checkRequired line index = .ok found
      ↔ Reachable index line.length
        ∧ found = (validator.missingAttributes line).map fun problem =>
            ⟨Range.onLine index 0 line.length, problem⟩ := by
  rw [Validator.checkRequired]
  by_cases hreach : Reachable index line.length
  · have hrange : (Range.onLine index 0 line.length).bounded
        = .ok (Range.onLine index 0 line.length) :=
      bounded_of_reachable hreach (Nat.zero_le _)
    rw [hrange, and_iff_right hreach]
    exact ⟨fun h => (Except.ok.inj h).symm, fun h => congrArg Except.ok h.symm⟩
  · obtain ⟨fault, hfault⟩ := bounded_of_not_reachable hreach
    rw [hfault]
    refine iff_of_false ?_ fun h => hreach h.1
    simp [bind, Except.bind]

/-- A find ends before its line does, so it is within reach if the end of the line is. -/
theorem bounded_of_mem_occurrences {α : Type} {read : Text.Reader α}
    (hfit : Text.Reader.Fits read) {index : Nat} (hreach : Reachable index line.length)
    {found : Text.Occurrence α} (hfound : found ∈ occurrences read 0 line) :
    (Range.onLine index found.start found.stop).bounded
      = .ok (Range.onLine index found.start found.stop) := by
  obtain ⟨hlt, hstop⟩ := Text.lt_and_le_of_mem_occurrences hfit hfound
  apply bounded_of_reachable _ (Nat.le_of_lt hlt)
  refine ⟨hreach.1, Int.le_trans ?_ hreach.2⟩
  omega

theorem checkValues_of_conforms (h : LineConforms validator.schema line) {index : Nat}
    (hreach : Reachable index line.length) : validator.checkValues line index = .ok [] := by
  have hquiet : ∀ found ∈ occurrences readValue 0 line, Quiet True (do
      let range ← (Range.onLine index found.start found.stop).bounded
      pure (validator.checkValue found.value.1 found.value.2 range)) := by
    intro found hfound
    have hvalue := valueProblems_of_accepts (h.values found hfound)
    rw [bounded_of_mem_occurrences Markup.readValue_fits hreach hfound]
    refine .inl ⟨trivial, ?_⟩
    simp only [Validator.checkValue, hvalue]
    rfl
  rcases quiet_mapM hquiet with ⟨-, hok⟩ | ⟨hunfit, -⟩
  · exact hok
  · exact absurd (fun _ _ => trivial) hunfit

/-- The checks of a conforming line are quiet; the place they depend on is the end of the line. -/
theorem checkLine_of_conforms (h : LineConforms validator.schema line) (index : Nat) :
    Quiet (Reachable index line.length) (validator.checkLine line index) := by
  have hrequired :=
    checkRequired_of_missingAttributes (missingAttributes_of_assigned h.assigned) index
  rw [Validator.checkLine, checkElements_of_known h.known]
  rcases hrequired with ⟨hreach, hok⟩ | ⟨hreach, fault, herror⟩
  · rw [hok, checkValues_of_conforms h hreach]
    exact .inl ⟨hreach, rfl⟩
  · rw [herror]
    exact .inr ⟨hreach, fault, rfl⟩

end

/-! ## Silence about a document -/

section

variable {schema : Schema} {row : List Piece}

/-- What a line mentions are the elements that the row begins. -/
theorem known_textOf (hmark : ∀ piece ∈ row, piece ≠ .char '<')
    (htags : ∀ tag ∈ startTags row, schema.isKnown tag.name = true) :
    ∀ found ∈ openings (textOf row), schema.isKnown found.value = true := by
  intro found hfound
  obtain ⟨tail, hsuffix, hname⟩ := Markup.exists_suffix_of_mem_openings hfound
  obtain ⟨tag, htag, heq⟩ := Markup.exists_startTag_of_suffix hmark hsuffix hname
  rw [← heq]
  exact htags tag htag

/-- An element's own tag assigns what the element requires. -/
theorem assigned_textOf (hnames : ∀ element ∈ schema.elementsWithRequired, IsName element)
    (hmark : ∀ piece ∈ row, piece ≠ .char '<')
    (htags : ∀ tag ∈ startTags row,
      ∀ attr ∈ schema.requiredOf tag.name, attr ∈ tag.attributes.map (·.name)) :
    ∀ element ∈ schema.elementsWithRequired, mentions element (textOf row) = true →
      ∀ attr ∈ schema.requiredOf element,
        Text.contains (attr ++ ['=']) (textOf row) = true := by
  intro element helement hmentions attr hattr
  obtain ⟨tail, hsuffix, hname⟩ := (Markup.mentions_iff (hnames element helement)).mp hmentions
  obtain ⟨tag, htag, rfl⟩ := Markup.exists_startTag_of_suffix hmark hsuffix hname
  obtain ⟨written, hwritten, rfl⟩ := List.mem_map.mp (htags tag htag attr hattr)
  rw [Text.contains_iff_infix]
  exact Markup.assignment_infix_textOf htag hwritten

/-- **A row with conforming tags is a conforming line.** -/
theorem lineConforms_textOf
    (hnames : ∀ element ∈ schema.elementsWithRequired, IsName element)
    (htidy : ∀ piece ∈ row, piece.Tidy) (htags : ∀ tag ∈ startTags row, Conforms schema tag) :
    LineConforms schema (textOf row) where
  known :=
    known_textOf (fun piece hpiece => (htidy piece hpiece).ne_mark) fun tag htag =>
      (htags tag htag).known
  assigned :=
    assigned_textOf hnames (fun piece hpiece => (htidy piece hpiece).ne_mark) fun tag htag =>
      (htags tag htag).required
  values := by
    intro found hfound
    have hvalue : found.value ∈ (startTags row).flatMap StartTag.assigned := by
      rw [← Markup.values_textOf htidy 0]
      exact List.mem_map_of_mem hfound
    obtain ⟨tag, htag, hassigned⟩ := List.mem_flatMap.mp hvalue
    obtain ⟨attr, hattr, hne, heq⟩ := StartTag.mem_assigned hassigned
    rw [heq]
    exact (htags tag htag).values attr hattr hne

end

theorem checkLines_of_conforms {validator : Validator}
    (hnames : ∀ element ∈ validator.schema.elementsWithRequired, IsName element)
    {content : Content} (htidy : ∀ piece ∈ content.pieces, piece.Tidy)
    (htags : ∀ tag ∈ content.tags, Conforms validator.schema tag) :
    Quiet (Addressable content.text) (validator.checkLines content.text) := by
  apply quiet_mapM
  rintro ⟨line, index⟩ hentry
  obtain ⟨parts, hlines, hparts⟩ := Markup.lines_textOf htidy
  rw [content.textOf_pieces] at hlines
  have hline : line ∈ parts.map textOf := by
    rw [← hlines]
    exact List.fst_mem_of_mem_zipIdx hentry
  obtain ⟨part, hpart, rfl⟩ := List.mem_map.mp hline
  -- the pieces of a line are pieces of the document, so they are tidy and conform
  have hsubset := hparts part hpart
  apply checkLine_of_conforms
  apply lineConforms_textOf hnames
  · intro piece hpiece
    exact htidy piece (hsubset hpiece)
  · intro tag htag
    apply htags tag
    rw [← content.startTags_pieces]
    obtain ⟨piece, hpiece, hstarts⟩ := List.mem_filterMap.mp htag
    exact List.mem_filterMap.mpr ⟨piece, hsubset hpiece, hstarts⟩

theorem checkRoot_of_mem {validator : Validator} {content : Content}
    (hroot : validator.schema.root ∈ content.tags.map (·.name)) :
    validator.checkRoot content.text = [] := by
  obtain ⟨tag, htag, heq⟩ := List.mem_map.mp hroot
  have hmentions : mentions validator.schema.root content.text = true := by
    rw [← heq, Markup.mentions_iff tag.isName, ← content.textOf_pieces]
    apply Markup.exists_suffix_of_startTag
    rwa [content.startTags_pieces]
  rw [Validator.checkRoot, if_pos hmentions]

/-- **No finding without a reason**: about a document that holds its root element, whose tags
conform and lie on one line each, and which has no equals sign outside of tags, validation reports
nothing, as long as every line is within reach of the protocol's positions. If some line is not,
validation reports nothing either, since it fails. -/
theorem validate_of_conforms (schema : Schema) (content : Content)
    (hnames : ∀ element ∈ schema.elementsWithRequired, IsName element)
    (hroot : schema.root ∈ content.tags.map (·.name))
    (htags : ∀ tag ∈ content.tags, Conforms schema tag ∧ '\n' ∉ tag.body)
    (hdata : ∀ data ∈ content.data, '=' ∉ data.chars) :
    (Validator.validate { schema } content.text = .ok [] ↔ Addressable content.text)
      ∧ ∀ found, Validator.validate { schema } content.text = .ok found → found = [] := by
  have htidy := Content.tidy_of_mem_pieces hdata fun tag htag => (htags tag htag).2
  have hlines : Quiet (Addressable content.text) (Validator.checkLines { schema } content.text) :=
    checkLines_of_conforms hnames htidy fun tag htag => (htags tag htag).1
  have hnesting : checkNesting content.text = .ok [] := by
    rw [← content.text_toForest]
    exact content.toForest.checkNesting_text
  have hfound : Validator.checkRoot { schema } content.text = [] := checkRoot_of_mem hroot
  apply Quiet.eq_ok_iff
  rw [Validator.validate, hnesting, hfound]
  rcases hlines with ⟨hfits, hok⟩ | ⟨hfits, fault, herror⟩
  · rw [hok]
    exact .inl ⟨hfits, rfl⟩
  · rw [herror]
    exact .inr ⟨hfits, fault, rfl⟩

/-- Lists of items: an item needs a key, its state is open or closed, its key is an identifier, and
whether it is done is a truth value. -/
def listSchema : Schema where
  hierarchy := [(Markup.documentRoot, ["list".toList]), ("list".toList, ["item".toList])]
  attributes := [("item".toList, ["key".toList, "state".toList, "done".toList])]
  required := [("item".toList, ["key".toList])]
  enums := [("state".toList, ["open".toList, "closed".toList])]
  known := ["list".toList, "item".toList]
  patternAttributes := ["key".toList]
  booleanAttributes := ["done".toList]
  documentation := []
  root := "list".toList

/-- A list of two items on one line, with the other quote and an equals sign inside a value and
with an empty value outside its domain. -/
def sampleList : Content :=
  .node noData (.bare "list".toList (by decide))
    (.void ⟨['\n', ' '], by decide⟩
      { name := "item".toList
        attributes :=
          [.plain "key".toList doubleQuote "a_1".toList rfl,
            .plain "note".toList doubleQuote "it's done='no'".toList rfl]
        space := noSpace
        isName := by decide
        unmarked := by decide }
      (.node noData
        { name := "item".toList
          attributes :=
            [.plain "key".toList singleQuote "B".toList rfl,
              .plain "done".toList doubleQuote "True".toList rfl,
              .plain "state".toList doubleQuote [] rfl]
          space := ⟨['\t'], List.all_eq_true.mp rfl⟩
          isName := by decide
          unmarked := by decide }
        (.leaf ⟨"more".toList, by decide⟩)
        (.leaf ⟨['\n'], by decide⟩)))
    (.leaf noData)

theorem validate_sampleList :
    (∀ tag ∈ sampleList.tags, Conforms listSchema tag ∧ '\n' ∉ tag.body)
      ∧ Validator.validate { schema := listSchema } sampleList.text = .ok [] := by
  have htags : ∀ tag ∈ sampleList.tags, Conforms listSchema tag ∧ '\n' ∉ tag.body := by decide
  have hlength : sampleList.text.length ≤ 2147483647 := by decide
  obtain ⟨hsilent, -⟩ := validate_of_conforms listSchema sampleList (by decide) (by decide) htags
    (by decide)
  exact ⟨htags, hsilent.mpr (addressable_of_length_le hlength)⟩

end TagLens.Diagnosis
