import TagLens.Assist.Completion
import TagLens.Proofs.Diagnosis.Findings

/-!
# Elements typed from snippets

An offered element comes as a snippet with places for the values of its required attributes and for
its content, numbered from left to right (`places_elementSnippet`). Whatever is filled in, as long
as it does not end its place, the text behind the `<` is one element with these attributes
(`exists_content`). The checks of the nesting, of the names and of the required attributes then
have nothing to say about it; only the values themselves may still be wrong.
-/

namespace TagLens.Assist

open Diagnosis (Validator Reachable Quiet checkNesting listSchema)
open Markup (IsName Attribute StartTag Content noData noSpace oneSpace)
open Schema (isKnown_of_mem_childrenOf)
open Text (doubleQuote)

/-! ## The places of a snippet -/

/-- A snippet holds characters to be typed as they are and numbered places to be filled in. -/
inductive Part where
  | char (c : Char)
  | place (number : Nat)

/-- The parts of a snippet. A place is a dollar sign with all the digits behind it. -/
def parts (snippet : Text) : List Part :=
  match snippet with
  | [] => []
  | c :: rest =>
    let digits := rest.takeWhile Char.isDigit
    if c == '$' && !digits.isEmpty then
      .place (Nat.ofDigitChars 10 digits 0) :: parts (rest.dropWhile Char.isDigit)
    else .char c :: parts rest
termination_by snippet.length
decreasing_by
  · exact Nat.lt_succ_of_le (Text.length_dropWhile_le Char.isDigit rest)
  · simp

def Part.number? : Part → Option Nat
  | .char _ => none
  | .place number => some number

def Part.text (fill : Nat → Text) : Part → Text
  | .char c => [c]
  | .place number => fill number

/-- The numbers of the places, from left to right. -/
def places (snippet : Text) : List Nat := (parts snippet).filterMap Part.number?

/-- The snippet with its places filled in. -/
def expand (fill : Nat → Text) (snippet : Text) : Text := (parts snippet).flatMap (Part.text fill)

theorem parts_cons {c : Char} (h : c ≠ '$') (rest : Text) :
    parts (c :: rest) = .char c :: parts rest := by
  rw [parts, if_neg (by simp [h])]

theorem parts_append {piece : Text} (h : '$' ∉ piece) (rest : Text) :
    parts (piece ++ rest) = piece.map .char ++ parts rest := by
  induction piece with
  | nil => rfl
  | cons c piece ih =>
      rw [List.mem_cons, not_or] at h
      rw [List.cons_append, parts_cons (Ne.symm h.1), ih h.2]
      rfl

theorem parts_placeholder (number : Nat) {c : Char} (hc : c.isDigit = false) (rest : Text) :
    parts (placeholder number ++ c :: rest) = .place number :: parts (c :: rest) := by
  have hdigits : ∀ d ∈ Nat.toDigits 10 number, d.isDigit = true := by
    intro d hd
    exact Nat.isDigit_of_mem_toDigits (by decide) (by decide) hd
  have hstop : ¬ c.isDigit = true := by simp [hc]
  -- the digits of the number are all the digits behind the dollar sign
  rw [placeholder, List.cons_append, parts]
  simp only [List.takeWhile_append_of_pos hdigits, List.dropWhile_append_of_pos hdigits,
    List.takeWhile_cons_of_neg hstop, List.dropWhile_cons_of_neg hstop, List.append_nil]
  rw [if_pos (by simp [Nat.toDigits_ne_nil]), Nat.ofDigitChars_toDigits (by decide) (by decide)]

/-! ## The snippet of an element -/

/-- The parts of an attribute with a place for its value, behind a blank. -/
def slotParts (entry : Text × Nat) : List Part :=
  .char ' ' :: (entry.1.map .char
    ++ [.char '=', .char doubleQuote, .place (entry.2 + 1), .char doubleQuote])

theorem parts_slot {entry : Text × Nat} (h : IsName entry.1) (rest : Text) :
    parts ((' ' :: slot entry.1 (entry.2 + 1)) ++ rest) = slotParts entry ++ parts rest := by
  have hname : '$' ∉ entry.1 := h.not_mem (by decide)
  simp only [slot, slotParts, List.append_assoc, List.cons_append, List.nil_append]
  rw [parts_cons (by decide), parts_append hname, parts_cons (by decide), parts_cons (by decide),
    parts_placeholder _ (by decide), parts_cons (by decide)]

theorem parts_slots {entries : List (Text × Nat)} (h : ∀ entry ∈ entries, IsName entry.1)
    (rest : Text) :
    parts ((entries.flatMap fun entry => ' ' :: slot entry.1 (entry.2 + 1)) ++ rest)
      = entries.flatMap slotParts ++ parts rest := by
  induction entries with
  | nil => rfl
  | cons entry entries ih =>
      obtain ⟨hentry, hentries⟩ := List.forall_mem_cons.mp h
      rw [List.flatMap_cons, List.append_assoc, parts_slot hentry, ih hentries, List.flatMap_cons,
        List.append_assoc]

section

variable {schema : Schema} {element : Text}

theorem parts_elementSnippet (hname : IsName element)
    (hrequired : ∀ attr ∈ schema.requiredOf element, IsName attr) :
    parts (elementSnippet schema element)
      = element.map .char ++ ((schema.requiredOf element).zipIdx.flatMap slotParts
        ++ .char '>' :: .place ((schema.requiredOf element).length + 1)
          :: ('<' :: '/' :: (element ++ ['>'])).map .char) := by
  have hentries : ∀ entry ∈ (schema.requiredOf element).zipIdx, IsName entry.1 := by
    intro entry hentry
    exact hrequired entry.1 (List.fst_mem_of_mem_zipIdx hentry)
  have hdollar : '$' ∉ element := hname.not_mem (by decide)
  have hclosing : '$' ∉ '<' :: '/' :: (element ++ ['>']) := by simp [hdollar]
  have hrest := parts_append hclosing []
  rw [List.append_nil] at hrest
  simp only [elementSnippet, List.append_assoc, List.cons_append, List.nil_append]
  rw [parts_append hdollar, parts_slots hentries, parts_cons (by decide),
    parts_placeholder _ (by decide), hrest]
  simp [parts]

/-- **The places of the snippet** are numbered from left to right: one for each required attribute
and a last one for the content. -/
theorem places_elementSnippet (hname : IsName element)
    (hrequired : ∀ attr ∈ schema.requiredOf element, IsName attr) :
    places (elementSnippet schema element)
      = List.range' 1 ((schema.requiredOf element).length + 1) := by
  have hchars : ∀ chars : Text, (chars.map Part.char).filterMap Part.number? = [] := by
    simp [Part.number?]
  have hslot : ∀ entry, (slotParts entry).filterMap Part.number? = [entry.2 + 1] := by
    intro entry
    simp [slotParts, List.filterMap_cons, hchars, Part.number?]
  have hnumbers : ∀ entries : List (Text × Nat),
      entries.flatMap (fun entry => [entry.2 + 1]) = (entries.map Prod.snd).map (1 + ·) := by
    intro entries
    rw [← List.map_eq_flatMap, List.map_map]
    apply List.map_congr_left
    intro entry _
    exact Nat.add_comm entry.2 1
  rw [places, parts_elementSnippet hname hrequired]
  simp only [List.filterMap_append, hchars, List.filterMap_flatMap, hslot, List.nil_append]
  rw [hnumbers, List.zipIdx_map_snd, List.map_add_range', List.range'_concat,
    List.filterMap_cons, List.filterMap_cons, hchars]
  simp [Part.number?, Nat.add_comm]

end

/-! ## The element typed -/

/-- The line after a `<` has been typed, an offer taken and its places filled in. -/
def typed (fill : Nat → Text) (item : Item) : Text := '<' :: expand fill item.insertText

/-- What may be filled in: values that end neither themselves nor their tag, and content that
begins no tag. -/
structure Fillable (count : Nat) (fill : Nat → Text) : Prop where
  value : ∀ number, 1 ≤ number → number ≤ count →
    '<' ∉ fill number ∧ '>' ∉ fill number ∧ doubleQuote ∉ fill number
  content : '<' ∉ fill (count + 1)

theorem exists_attributes {fill : Nat → Text} {entries : List (Text × Nat)}
    (h : ∀ entry ∈ entries, IsName entry.1 ∧ '<' ∉ fill (entry.2 + 1) ∧ '>' ∉ fill (entry.2 + 1)
      ∧ doubleQuote ∉ fill (entry.2 + 1)) :
    ∃ attributes : List Attribute, attributes.map (·.name) = entries.map Prod.fst
      ∧ (∀ attr ∈ attributes, '<' ∉ attr.value ∧ '>' ∉ attr.value)
      ∧ attributes.flatMap Attribute.text
          = (entries.flatMap slotParts).flatMap (Part.text fill) := by
  induction entries with
  | nil => exact ⟨[], rfl, by simp, rfl⟩
  | cons entry entries ih =>
      obtain ⟨⟨hname, hopen, hclose, hquote⟩, hentries⟩ := List.forall_mem_cons.mp h
      obtain ⟨attributes, hnames, hunmarked, htext⟩ := ih hentries
      let attr : Attribute :=
        { gap := oneSpace.chars
          name := entry.1
          quote := doubleQuote
          value := fill (entry.2 + 1)
          gap_ne_nil := by simp [oneSpace]
          gap_blank := oneSpace.blank
          isName := hname
          isQuote := rfl
          not_mem_value := hquote }
      refine ⟨attr :: attributes, ?_, ?_, ?_⟩
      · rw [List.map_cons, List.map_cons, hnames]
      · rw [List.forall_mem_cons]
        exact ⟨⟨hopen, hclose⟩, hunmarked⟩
      · rw [List.flatMap_cons, List.flatMap_cons, List.flatMap_append, htext]
        simp [attr, Attribute.text, slotParts, Part.text, oneSpace, List.flatMap_map]

/-- **The typed text is one element**, with the required attributes in their order. -/
theorem exists_content {schema : Schema} {element : Text} (hname : IsName element)
    (hrequired : ∀ attr ∈ schema.requiredOf element, IsName attr) {fill : Nat → Text}
    (hfill : Fillable (schema.requiredOf element).length fill) :
    ∃ (content : Content) (tag : StartTag), content.tags = [tag] ∧ tag.name = element
      ∧ tag.attributes.map (·.name) = schema.requiredOf element
      ∧ '<' :: expand fill (elementSnippet schema element) = content.text := by
  have hentries : ∀ entry ∈ (schema.requiredOf element).zipIdx, IsName entry.1
      ∧ '<' ∉ fill (entry.2 + 1) ∧ '>' ∉ fill (entry.2 + 1) ∧ doubleQuote ∉ fill (entry.2 + 1) := by
    intro entry hentry
    have hlt : entry.2 < (schema.requiredOf element).length := by
      simpa using List.snd_lt_of_mem_zipIdx hentry
    exact ⟨hrequired entry.1 (List.fst_mem_of_mem_zipIdx hentry),
      hfill.value _ (Nat.le_add_left 1 entry.2) hlt⟩
  obtain ⟨attributes, hnames, hunmarked, htext⟩ := exists_attributes hentries
  rw [List.zipIdx_map_fst] at hnames
  let tag : StartTag := ⟨element, attributes, noSpace, hname, hunmarked⟩
  refine ⟨.node noData tag (.leaf ⟨_, hfill.content⟩) (.leaf noData), tag, rfl, rfl, hnames, ?_⟩
  have hchars : ∀ chars : Text, (chars.map Part.char).flatMap (Part.text fill) = chars := by
    intro chars
    simp [List.flatMap_map, Part.text]
  rw [expand, parts_elementSnippet hname hrequired]
  simp only [List.flatMap_append, hchars, ← htext]
  simp [tag, Content.text, StartTag.openText, StartTag.closeText, StartTag.body, Part.text, noSpace,
    noData, hchars]

/-! ## What the checks say about it -/

section

variable {validator : Validator} {line : Text} {index : Nat}

/-- A line that names known elements only and assigns what they require is checked whenever its end
is within reach, and what is then found concerns values. -/
theorem checkLine_of_known (helements : validator.checkElements line index = .ok [])
    (hrequired : Quiet (Reachable index line.length) (validator.checkRequired line index)) :
    ((∃ found, validator.checkLine line index = .ok found) ↔ Reachable index line.length)
      ∧ ∀ found, validator.checkLine line index = .ok found →
          ∀ finding ∈ found, finding.problem.code ≠ "unknown-element" := by
  rw [Validator.checkLine, helements]
  -- what is found on the line is what is found about its values
  rcases hrequired with ⟨hreach, hok⟩ | ⟨hreach, fault, herror⟩
  · rw [hok, Diagnosis.checkValues_eq_ok hreach]
    refine ⟨iff_of_true ⟨_, rfl⟩ hreach, ?_⟩
    intro found hfound finding hfinding hunknown
    rw [← Except.ok.inj hfound] at hfinding
    have hcode := Diagnosis.code_of_mem_valueFindings hfinding
    rw [hunknown] at hcode
    exact absurd hcode (by decide)
  · rw [herror]
    refine ⟨iff_of_false ?_ hreach, ?_⟩
    · rintro ⟨found, hfound⟩
      exact absurd hfound (by simp [bind, Except.bind])
    · intro found hfound
      exact absurd hfound (by simp [bind, Except.bind])

end

/-! ## The names of a schema -/

/-- Children, and elements and attributes that are required, have proper names. -/
structure Named (tables : Schema.Tables) : Prop where
  children : ∀ entry ∈ tables.hierarchy, ∀ child ∈ entry.2, IsName child
  required : ∀ entry ∈ tables.required, IsName entry.1 ∧ ∀ attr ∈ entry.2, IsName attr

section

variable {tables : Schema.Tables} {schema : Schema} (hschema : Schema.ofTables tables = .ok schema)
  (hnamed : Named tables)

include hschema hnamed

theorem isName_of_mem_childrenOf {parent child : Text} (h : child ∈ schema.childrenOf parent) :
    IsName child := by
  obtain ⟨hhierarchy, -, -⟩ := Schema.ofTables_eq_ok hschema
  rw [Schema.childrenOf, hhierarchy] at h
  obtain ⟨children, hentry, hchild⟩ := Schema.exists_mem_of_mem_lookup h
  obtain ⟨names, hmem, hsubset⟩ := Schema.exists_mem_of_mem_tidy hentry
  exact hnamed.children _ hmem child (hsubset hchild)

theorem isName_of_mem_requiredOf {element attr : Text} (h : attr ∈ schema.requiredOf element) :
    IsName attr := by
  obtain ⟨-, hrequired, -⟩ := Schema.ofTables_eq_ok hschema
  rw [Schema.requiredOf, hrequired] at h
  obtain ⟨attributes, hentry, hattr⟩ := Schema.exists_mem_of_mem_lookup h
  obtain ⟨names, hmem, hsubset⟩ := Schema.exists_mem_of_mem_tidy hentry
  exact (hnamed.required _ hmem).2 attr (hsubset hattr)

theorem isName_of_mem_elementsWithRequired {element : Text}
    (h : element ∈ schema.elementsWithRequired) : IsName element := by
  obtain ⟨-, hrequired, -⟩ := Schema.ofTables_eq_ok hschema
  rw [Schema.elementsWithRequired, hrequired] at h
  obtain ⟨entry, hentry, rfl⟩ := List.mem_map.mp h
  obtain ⟨names, hmem, -⟩ := Schema.exists_mem_of_mem_tidy (List.mem_filter.mp hentry).1
  exact (hnamed.required _ hmem).1

end

/-- The names on a line of content are those of its tags, and required attributes are looked for
in the whole line, so a tag that has its own is enough. -/
theorem checks_of_content {validator : Validator} (content : Content)
    (hnames : ∀ element ∈ validator.schema.elementsWithRequired, IsName element)
    (hknown : ∀ tag ∈ content.tags, validator.schema.isKnown tag.name = true)
    (hrequired : ∀ tag ∈ content.tags,
      ∀ attr ∈ validator.schema.requiredOf tag.name, attr ∈ tag.attributes.map (·.name))
    (index : Nat) :
    validator.checkElements content.text index = .ok []
      ∧ Quiet (Reachable index content.text.length)
          (validator.checkRequired content.text index) := by
  have hmark := content.ne_mark_of_mem_pieces
  rw [← content.startTags_pieces] at hknown hrequired
  rw [← content.textOf_pieces]
  constructor
  · exact Diagnosis.checkElements_of_known (Diagnosis.known_textOf hmark hknown) index
  · apply Diagnosis.checkRequired_of_missingAttributes
    apply Diagnosis.missingAttributes_of_assigned
    exact Diagnosis.assigned_textOf hnames hmark hrequired

/-- **Offered elements are sound.** In a schema of proper names whose known elements are derived
from its tables, the snippet of every element that is offered has one place for each attribute the
element requires and a last one for its content, numbered from left to right. However the places
are filled in, the line typed is well nested and assigns what the element requires; it is checked
whenever its end is within reach, and no name on it is unknown. -/
theorem element_offers (tables : Schema.Tables) (validator : Validator)
    (hschema : Schema.ofTables tables = .ok validator.schema) (hknown : tables.known = none)
    (hnamed : Named tables) (parent : Text) (item : Item)
    (hitem : item ∈ elementItems validator.schema parent) :
    places item.insertText
        = List.range' 1 ((validator.schema.requiredOf item.label).length + 1)
      ∧ ∀ fill, Fillable (validator.schema.requiredOf item.label).length fill →
          checkNesting (typed fill item) = .ok []
          ∧ ∀ index : Nat,
            (validator.checkRequired (typed fill item) index = .ok []
              ↔ Reachable index (typed fill item).length)
            ∧ (∀ found, validator.checkRequired (typed fill item) index = .ok found → found = [])
            ∧ ((∃ found, validator.checkLine (typed fill item) index = .ok found)
              ↔ Reachable index (typed fill item).length)
            ∧ ∀ found, validator.checkLine (typed fill item) index = .ok found →
                ∀ finding ∈ found, finding.problem.code ≠ "unknown-element" := by
  obtain ⟨element, helement, key, rfl⟩ := exists_of_mem_itemize hitem
  have hname := isName_of_mem_childrenOf hschema hnamed helement
  have hrequired : ∀ attr ∈ validator.schema.requiredOf element, IsName attr := by
    intro attr hattr
    exact isName_of_mem_requiredOf hschema hnamed hattr
  refine ⟨places_elementSnippet hname hrequired, ?_⟩
  intro fill hfill
  obtain ⟨content, tag, htags, hsame, hattributes, htext⟩ := exists_content hname hrequired hfill
  have hnames : ∀ element ∈ validator.schema.elementsWithRequired, IsName element := by
    intro element hmem
    exact isName_of_mem_elementsWithRequired hschema hnamed hmem
  have hexists : ∀ other ∈ content.tags, validator.schema.isKnown other.name = true := by
    rw [htags, List.forall_mem_singleton, hsame]
    exact isKnown_of_mem_childrenOf hschema hknown helement
  have hassigns : ∀ other ∈ content.tags,
      ∀ attr ∈ validator.schema.requiredOf other.name, attr ∈ other.attributes.map (·.name) := by
    rw [htags, List.forall_mem_singleton, hsame, hattributes]
    exact fun attr hattr => hattr
  rw [typed, htext]
  constructor
  · rw [← content.text_toForest]
    exact content.toForest.checkNesting_text
  · intro index
    obtain ⟨helements, hquiet⟩ := checks_of_content content hnames hexists hassigns index
    obtain ⟨hsilent, hnothing⟩ := hquiet.eq_ok_iff
    exact ⟨hsilent, hnothing, checkLine_of_known helements hquiet⟩

/-- Lists whose items need a key and a state. -/
def strictTables : Schema.Tables where
  hierarchy := listSchema.hierarchy
  attributes := listSchema.attributes
  required := [("item".toList, ["key".toList, "state".toList])]
  enums := listSchema.enums
  patternAttributes := listSchema.patternAttributes
  booleanAttributes := listSchema.booleanAttributes

def strictSchema : Schema := { listSchema with required := strictTables.required }

/-- A key that is no identifier, a state outside its domain that looks like a place, and content
with an equals sign. -/
def strictFill : Nat → Text
  | 1 => "1st".toList
  | 2 => "it's $1".toList
  | _ => "a=b > c".toList

def strictItem : Item where
  label := "item".toList
  kind := .element
  detail := "item element".toList
  insertText := "item key=\"$1\" state=\"$2\">$3</item>".toList
  snippet := true
  sortText := "0000".toList

theorem element_offers_strictItem :
    elementItems strictSchema "list".toList = [strictItem]
      ∧ places strictItem.insertText = [1, 2, 3]
      ∧ typed strictFill strictItem
          = "<item key=\"1st\" state=\"it's $1\">a=b > c</item>".toList
      ∧ checkNesting (typed strictFill strictItem) = .ok []
      ∧ Validator.checkRequired { schema := strictSchema } (typed strictFill strictItem) 7
          = .ok []
      ∧ ∃ found, Validator.checkLine { schema := strictSchema } (typed strictFill strictItem) 7
          = .ok found := by
  have hschema : Schema.ofTables strictTables = .ok strictSchema := rfl
  have hitems : elementItems strictSchema "list".toList = [strictItem] := by decide
  have htyped : typed strictFill strictItem
      = "<item key=\"1st\" state=\"it's $1\">a=b > c</item>".toList := by decide +kernel
  have hnamed : Named strictTables := ⟨by decide, by decide⟩
  have hfill : Fillable 2 strictFill := by
    refine ⟨?_, by decide⟩
    intro number hone htwo
    obtain rfl | rfl : number = 1 ∨ number = 2 := by omega
    · decide
    · decide
  have hreach : Reachable 7 (typed strictFill strictItem).length := by
    rw [htyped]
    decide
  obtain ⟨hplaces, hchecks⟩ := element_offers strictTables { schema := strictSchema } hschema rfl
    hnamed "list".toList strictItem (by rw [hitems]; exact List.mem_singleton_self _)
  obtain ⟨hnesting, hlines⟩ := hchecks strictFill hfill
  obtain ⟨hrequired, -, hline, -⟩ := hlines 7
  exact ⟨hitems, hplaces, htyped, hnesting, hrequired.mpr hreach, hline.mpr hreach⟩

end TagLens.Assist
