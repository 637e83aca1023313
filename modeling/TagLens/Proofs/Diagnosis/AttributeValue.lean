import TagLens.Proofs.Diagnosis.Findings

/-!
# Findings about attribute values

`TagLine` is a line with one tag on it, whose attributes may have any values: with the other quote
in them, with `<` and `>`, and with whole assignments. The check of the values reads the line from
left to right and keeps in step with the attributes (`TagLine.occurrences_readValue`): an attribute
with a value is read as a whole, quotes included, and one without a value is passed over as a whole.
So every value is judged once, under the name it is assigned to, and nothing inside a value is taken
for an assignment (`checkLine_values`).
-/

namespace TagLens.Diagnosis

open Document (Range)
open Markup (IsName Attribute Space placedFrom noSpace readValue)
open Text (doubleQuote singleQuote occurrences)

/-! ## What a schema has against a value -/

/-- What there is to say against a value of an attribute, in this order: it is not among the values
that the attribute may take, it is no identifier, or it is no truth value. -/
def objections (schema : Schema) (attr value : Text) : List Problem :=
  ((schema.domainOf? attr).toList.filter fun domain => !domain.elem value).map
      (.outsideDomain attr value)
    ++ (if schema.isPattern attr = true ∧ ¬ IsIdentifier value then [.notIdentifier attr] else [])
    ++ (if schema.isBoolean attr = true
          ∧ ¬ (Text.lower value = "true".toList ∨ Text.lower value = "false".toList) then
        [.notBoolean attr value]
      else [])

theorem isTruthValue_iff {value : Text} :
    isTruthValue value = true
      ↔ Text.lower value = "true".toList ∨ Text.lower value = "false".toList := by
  simp [isTruthValue]

theorem valueProblems_eq_objections {validator : Validator} {attr value : Text}
    (h : '\n' ∉ value) :
    validator.valueProblems attr value = objections validator.schema attr value := by
  have hpattern : (validator.schema.isPattern attr && !isIdentifier value) = true
      ↔ validator.schema.isPattern attr = true ∧ ¬ IsIdentifier value := by
    rw [Bool.and_eq_true, Bool.not_eq_true', ← Bool.not_eq_true, isIdentifier_iff h]
  have hboolean : (validator.schema.isBoolean attr && !isTruthValue value) = true
      ↔ validator.schema.isBoolean attr = true
        ∧ ¬ (Text.lower value = "true".toList ∨ Text.lower value = "false".toList) := by
    rw [Bool.and_eq_true, Bool.not_eq_true', ← Bool.not_eq_true, isTruthValue_iff]
  rw [Validator.valueProblems, objections]
  simp only [hpattern, hboolean]
  congr 2
  cases validator.schema.domainOf? attr with
  | none => rfl
  | some domain => by_cases hmem : value ∈ domain <;> simp [hmem]

/-! ## Lines with one tag -/

/-- A line with one tag, which ends in `>` or, if it is void, in `/>`. -/
structure TagLine where
  name : Text
  attributes : List Attribute
  space : Space
  void : Bool
  isName : IsName name

namespace TagLine

variable (line : TagLine)

def ending : Text := if line.void then ['/', '>'] else ['>']

def text : Text :=
  '<' :: (line.name ++ (line.attributes.flatMap Attribute.text
    ++ (line.space.chars ++ line.ending)))

/-- The attributes of the tag with the columns of their names. -/
def placed : List (Nat × Attribute) := placedFrom (line.name.length + 1) line.attributes

/-- **The reader keeps in step with the attributes**, whatever their values hold. -/
theorem occurrences_readValue :
    occurrences readValue 0 line.text
      = (line.placed.filter (·.2.hasValue)).map fun entry => entry.2.foundAt entry.1 := by
  -- what ends the tag begins with a character that ends every name and assigns nothing
  obtain ⟨c, rest, hending, hc, hne, hrest⟩ : ∃ c rest, line.ending = c :: rest
      ∧ Markup.isDelimiter c = true ∧ c ≠ '='
      ∧ ∀ next, occurrences readValue next rest = [] := by
    unfold ending
    cases line.void with
    | false => exact ⟨'>', [], rfl, by decide, by decide, fun next => Text.occurrences_nil next⟩
    | true =>
        refine ⟨'/', ['>'], rfl, by decide, by decide, fun next => ?_⟩
        rw [Text.occurrences_cons_none next rfl, Text.occurrences_nil]
  obtain ⟨next, hfound⟩ := Markup.occurrences_readValue_tag line.isName line.attributes line.space
    hc hne 0 rest
  rw [text, hending, hfound, hrest, List.append_nil, Nat.zero_add]
  rfl

end TagLine

/-- An attribute stands at its place, from its name up to its closing quote. -/
theorem prefix_drop_of_mem_placedFrom {attributes : List Attribute} {entry : Nat × Attribute}
    {before : Text} (h : entry ∈ placedFrom before.length attributes) (rest : Text) :
    entry.2.assignment
      <+: (before ++ (attributes.flatMap Attribute.text ++ rest)).drop entry.1 := by
  induction attributes generalizing before with
  | nil => simp [placedFrom] at h
  | cons attr attributes ih =>
      rw [List.flatMap_cons, List.append_assoc]
      rcases List.mem_cons.mp h with rfl | h
      · have htext : before ++ (attr.text ++ (attributes.flatMap Attribute.text ++ rest))
            = (before ++ attr.gap) ++ (attr.assignment
              ++ (attributes.flatMap Attribute.text ++ rest)) := by
          simp [Attribute.text, Attribute.assignment]
        rw [htext, List.drop_left' (by simp)]
        exact List.prefix_append _ _
      · rw [← List.append_assoc]
        apply ih
        rwa [List.length_append]

theorem valueFindings_text {validator : Validator} {line : TagLine}
    (h : ∀ attr ∈ line.attributes, '\n' ∉ attr.value) (index : Nat) :
    validator.valueFindings line.text index
      = (line.placed.filter (·.2.hasValue)).flatMap fun entry =>
          (objections validator.schema entry.2.name entry.2.value).map fun problem =>
            ⟨Range.onLine index entry.1 (entry.1 + entry.2.assignment.length : Nat), problem⟩ := by
  rw [Validator.valueFindings, line.occurrences_readValue, List.flatMap_map]
  apply List.flatMap_congr
  intro entry hentry
  have hattr : entry.2 ∈ line.attributes := by
    rw [← Markup.map_snd_placedFrom (line.name.length + 1) line.attributes]
    exact List.mem_map_of_mem (List.mem_filter.mp hentry).1
  rw [← valueProblems_eq_objections (h entry.2 hattr)]
  rfl

/-- **The values of a tag are checked once each, at their places.** A line with one tag is checked
exactly when its end is within reach. What is then found about values are the objections to the
values of its attributes, from left to right, those to an empty value left out; each concerns the
stretch of the line in which the attribute is written, from the first character of its name up to
and with its closing quote. -/
theorem checkLine_values (validator : Validator) (line : TagLine)
    (hvalues : ∀ attr ∈ line.attributes, '\n' ∉ attr.value) (index : Nat) :
    ((∃ found, validator.checkLine line.text index = .ok found)
        ↔ Reachable index line.text.length)
      ∧ (∀ found, validator.checkLine line.text index = .ok found →
        found.filter (·.problem.code ∈ valueCodes)
          = (line.placed.filter (·.2.value ≠ [])).flatMap fun entry =>
              (objections validator.schema entry.2.name entry.2.value).map fun problem =>
                ⟨Range.onLine index entry.1 (entry.1 + entry.2.assignment.length : Nat), problem⟩)
      ∧ line.placed.map (·.2) = line.attributes
      ∧ ∀ entry ∈ line.placed, entry.2.assignment <+: line.text.drop entry.1 := by
  refine ⟨⟨?_, ?_⟩, ?_, Markup.map_snd_placedFrom _ _, ?_⟩
  · rintro ⟨found, hfound⟩
    exact (checkLine_eq_ok_iff.mp hfound).1
  · intro hreach
    exact ⟨_, checkLine_eq_ok_iff.mpr ⟨hreach, rfl⟩⟩
  · intro found hfound
    obtain ⟨-, rfl⟩ := checkLine_eq_ok_iff.mp hfound
    have hkeep : (validator.valueFindings line.text index).filter (·.problem.code ∈ valueCodes)
        = validator.valueFindings line.text index := by
      rw [List.filter_eq_self]
      intro finding hfinding
      simpa using code_of_mem_valueFindings hfinding
    rw [filter_lineFindings (· ∈ valueCodes), hkeep, valueFindings_text hvalues,
      if_neg (by decide), if_neg (by decide)]
    rfl
  · intro entry hentry
    have hplaced : entry ∈ placedFrom ('<' :: line.name).length line.attributes := hentry
    exact prefix_drop_of_mem_placedFrom hplaced _

/-- A void element with a key that is no identifier, a note that speaks of keys, an empty state, and
two more values out of place. -/
def crowdedLine : TagLine where
  name := "entry".toList
  attributes :=
    [.plain "key".toList doubleQuote "1st".toList rfl,
      .plain "note".toList singleQuote "key=\"x\" done=\"no\"".toList rfl,
      .plain "state".toList singleQuote [] rfl,
      .plain "done".toList doubleQuote "Maybe".toList rfl,
      .plain "state".toList singleQuote "<shut>".toList rfl]
  space := noSpace
  void := true
  isName := by decide

theorem checkLine_values_crowdedLine :
    crowdedLine.text = ("<entry key=\"1st\" note='key=\"x\" done=\"no\"' state='' "
        ++ "done=\"Maybe\" state='<shut>'/>").toList
      ∧ (∀ attr ∈ crowdedLine.attributes, '\n' ∉ attr.value)
      ∧ ∃ found, Validator.checkLine { schema := listSchema } crowdedLine.text 7 = .ok found
        ∧ found.filter (·.problem.code ∈ valueCodes)
          = [⟨Range.onLine 7 7 16, .notIdentifier "key".toList⟩,
            ⟨Range.onLine 7 51 63, .notBoolean "done".toList "Maybe".toList⟩,
            ⟨Range.onLine 7 64 78, .outsideDomain "state".toList "<shut>".toList
              ["open".toList, "closed".toList]⟩] := by
  have hvalues : ∀ attr ∈ crowdedLine.attributes, '\n' ∉ attr.value := by decide
  obtain ⟨hchecked, hfound, -, -⟩ :=
    checkLine_values { schema := listSchema } crowdedLine hvalues 7
  obtain ⟨found, hok⟩ := hchecked.mpr (by decide)
  refine ⟨by decide, hvalues, found, hok, ?_⟩
  rw [hfound found hok]
  decide +kernel

end TagLens.Diagnosis
