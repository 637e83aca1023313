import TagLens.Proofs.Markup.OpenValue
import TagLens.Proofs.Cursor.OpenQuote
import TagLens.Proofs.Assist.RequiredAttribute

/-!
# What is offered inside a tag

Behind the attributes of a tag the offers are the attributes of its element that are not there yet
(`attributeItems_typedTag`), and inside a value they are the values of the attribute that the value
belongs to. The first holds of every tag. For the second the attribute has to be found, from the
text up to the cursor alone, and a finished value that ends in an assignment can come in between:
`complete_openTag` says whose values are offered, and when they are those of the attribute being
typed.
-/

namespace TagLens.Cursor

open Markup (OpenTag SpacedAttribute)

/-! ## Marks in a tag with an open value -/

/-- A finished attribute has its mark twice. -/
theorem evenMarks_attribute {attr : SpacedAttribute} (hplain : Quoteless attr.value) :
    EvenMarks attr.text := by
  have hlead : Quoteless attr.lead := fun c hc => attr.isQuote_of_mem_lead hc
  rw [evenMarks_iff, SpacedAttribute.text]
  exact hasOpenQuote_close (evenMarks_iff.mp hlead.evenMarks) attr.isQuote hplain

theorem evenMarks_attributes {attributes : List SpacedAttribute}
    (hplain : ∀ attr ∈ attributes, Quoteless attr.value) :
    EvenMarks (attributes.flatMap SpacedAttribute.text) := by
  induction attributes with
  | nil =>
      intro q _
      rfl
  | cons attr attributes ih =>
      obtain ⟨hattr, hplain⟩ := List.forall_mem_cons.mp hplain
      rw [List.flatMap_cons]
      exact (evenMarks_attribute hattr).append (ih hplain)

section

variable (tag : OpenTag)

/-- The mark that opens the current value makes the number odd. -/
theorem hasOpenQuote_inner : hasOpenQuote tag.inner = true := by
  have hname : Quoteless tag.name := by
    intro c hc
    exact Markup.isQuote_of_isNameChar (tag.isName.isNameChar_of_mem hc)
  have hlead : Quoteless tag.current.lead := fun c hc => tag.current.isQuote_of_mem_lead hc
  have hfinished : EvenMarks (tag.finished.flatMap SpacedAttribute.text) := by
    apply evenMarks_attributes
    intro attr hattr c hc
    exact (tag.plain attr hattr c hc).1
  have hq := tag.current.isQuote
  have hvalue : tag.current.value.count tag.current.quote = 0 :=
    List.count_eq_zero.mpr tag.current.not_mem_value
  have heven := hfinished _ hq
  rw [hasOpenQuote_iff]
  -- the current value may hold the other mark, so it is the mark of the value that is counted
  refine ⟨tag.current.quote, hq, ?_⟩
  rw [OpenTag.inner, OpenTag.openText, List.count_append, List.count_append, List.count_append,
    List.count_cons_self, hname.count_eq_zero hq, hlead.count_eq_zero hq, hvalue]
  omega

theorem isInsideTag_of_mem_inner : ∀ c ∈ tag.inner, isInsideTag c = true := by
  apply isInsideTag_of_not_mem
  · intro hmem
    exact (tag.ne_of_mem_inner hmem).1 rfl
  · intro hmem
    exact (tag.ne_of_mem_inner hmem).2 rfl

theorem nameAt?_inner : Markup.nameAt? tag.inner = some tag.name := by
  obtain ⟨attr, rest, hlead⟩ := tag.exists_lead
  rw [OpenTag.inner, hlead]
  exact Markup.nameAt?_append tag.isName (attr.endsName_lead rest)

/-- The surroundings inside the value of a tag, behind any text. -/
theorem context_openTag (before : Text) :
    context (before ++ tag.text)
      = { kind := .attributeValue, enclosing := enclosingElement before, tag := some tag.name,
          attr := some tag.heardName, existing := [] } := by
  have hinside := isInsideTag_of_mem_inner tag
  have hkind : classify (before ++ tag.text) = .attributeValue := by
    rw [OpenTag.text, classify_tag before hinside, kindInTag, if_pos (hasOpenQuote_inner tag)]
  have htag : unterminatedTag? (before ++ tag.text) = some tag.text :=
    unterminatedTag?_append before hinside
  have henclosing : enclosingElement (before ++ tag.text) = enclosingElement before := by
    apply enclosingElement_append
    rw [OpenTag.text, List.mem_cons, not_or]
    refine ⟨by decide, ?_⟩
    intro hmem
    exact (tag.ne_of_mem_inner hmem).2 rfl
  have helement : tagElement? tag.text = some tag.name := nameAt?_inner tag
  have hattr : openAttribute? tag.text = some tag.heardName := tag.head?_occurrences_text
  simp only [context, hkind, htag, henclosing, Option.getD_some, helement, hattr]
  rfl

end

end TagLens.Cursor

namespace TagLens.Assist

open Diagnosis (listSchema)
open Markup (OpenTag TypedTag Attribute assignedNames trailingName?)
open Text (doubleQuote singleQuote)

/-! ## Inside a value -/

/-- The offers are the values of the attribute, each to be typed as it is. -/
theorem map_valueItems {tables : Schema.Tables} {schema : Schema}
    (hschema : Schema.ofTables tables = .ok schema) {attr : Text} (h : attr ≠ []) :
    (valueItems schema (some attr)).map (fun item => (item.label, item.insertText))
      = ((schema.domainOf? attr).getD []).map fun value => (value, value) := by
  have hnodup := Schema.nodup_domainOf? hschema attr
  calc (valueItems schema (some attr)).map (fun item => (item.label, item.insertText))
      = ((schema.domainOf? attr).getD []).eraseDups.map fun value => (value, value) := by
        rw [valueItems_some h]
        apply map_itemize
        intro value key
        rfl
    _ = ((schema.domainOf? attr).getD []).map fun value => (value, value) := by
        rw [Schema.eraseDups_of_nodup hnodup]

/-- **Offers inside a value.** At the end of a tag whose last value is still open, behind any text,
the cursor is inside a value, and the offers are the values of the attribute that is heard, in the
order of their declaration. That is the attribute whose value is being typed, unless the value of
its rival ends in an assignment of another name: the rival is the last finished attribute with the
other quotation mark, as long as that mark has not been typed again. -/
theorem complete_openTag (tables : Schema.Tables) (schema : Schema)
    (hschema : Schema.ofTables tables = .ok schema) (before : Text) (tag : OpenTag) :
    (Cursor.context (before ++ tag.text)).kind = .attributeValue
      ∧ (Cursor.context (before ++ tag.text)).attr = some tag.heardName
      ∧ (tag.heardName = tag.current.name
          ↔ ∀ rival ∈ tag.rival?, ∀ name ∈ trailingName? rival.value, name = tag.current.name)
      ∧ (complete schema (before ++ tag.text)).map (fun item => (item.label, item.insertText))
          = ((schema.domainOf? tag.heardName).getD []).map fun value => (value, value) := by
  have hcontext := Cursor.context_openTag tag before
  refine ⟨by rw [hcontext], by rw [hcontext], tag.heardName_eq_iff, ?_⟩
  rw [complete, hcontext]
  exact map_valueItems hschema tag.isName_heardName.ne_nil

/-- An item with two finished attributes, of which the first one's value is an assignment. -/
def keyedTag : OpenTag where
  name := "item".toList
  finished :=
    [(Attribute.plain "note".toList doubleQuote "done=".toList rfl).spaced,
      (Attribute.plain "key".toList doubleQuote "k".toList rfl).spaced]
  current := (Attribute.plain "state".toList singleQuote "op".toList rfl).spaced
  isName := isName_item
  plain := by decide
  unmarked := by decide

/-- The assignment is not that of the rival. -/
theorem complete_openTag_keyedTag :
    Schema.ofTables strictTables = .ok strictSchema
      ∧ keyedTag.text = "<item note=\"done=\" key=\"k\" state='op".toList
      ∧ keyedTag.heardName = "state".toList
      ∧ (complete strictSchema ("<list>".toList ++ keyedTag.text)).map
            (fun item => (item.label, item.insertText))
          = [("open".toList, "open".toList), ("closed".toList, "closed".toList)] := by
  have hschema : Schema.ofTables strictTables = .ok strictSchema := rfl
  have hheard : keyedTag.heardName = "state".toList := by decide +kernel
  obtain ⟨-, -, -, hoffers⟩ :=
    complete_openTag strictTables strictSchema hschema "<list>".toList keyedTag
  refine ⟨hschema, by decide, hheard, ?_⟩
  rw [hoffers, hheard]
  decide

/-- An item whose note ends in an assignment, with the key being typed. -/
def notedTag : OpenTag where
  name := "item".toList
  finished := [(Attribute.plain "note".toList doubleQuote "state=".toList rfl).spaced]
  current := (Attribute.plain "key".toList singleQuote "k".toList rfl).spaced
  isName := isName_item
  plain := by decide
  unmarked := by decide

/-- For a key the values of a state are offered, because the note before it speaks of one. -/
theorem complete_notedTag :
    notedTag.text = "<item note=\"state=\" key='k".toList
      ∧ notedTag.current.name = "key".toList
      ∧ (Cursor.context notedTag.text).attr = some "state".toList
      ∧ listSchema.domainOf? "key".toList = none
      ∧ (complete listSchema notedTag.text).map (·.label)
          = ["open".toList, "closed".toList] := by
  decide +kernel

/-! ## Behind the attributes -/

/-- **Offers behind the attributes of a tag.** The names taken for already there are those of the
tag's attributes, in their order and each once, whatever the values and the word at the end say. So
the offers are the attributes of the element that none of these is named, in the order of their
declaration and each once. -/
theorem attributeItems_typedTag (schema : Schema) (tag : TypedTag) :
    assignedNames tag.text = (tag.attributes.map (·.name)).eraseDups
      ∧ (attributeItems schema (some tag.name) (assignedNames tag.text)).map (·.label)
          = ((schema.attributesOf tag.name).filter fun attr =>
              attr ∉ tag.attributes.map (·.name)).eraseDups := by
  refine ⟨tag.assignedNames_text, ?_⟩
  rw [attributeItems_some tag.isName.ne_nil, map_label_itemize fun _ _ => rfl,
    tag.assignedNames_text]
  congr 1
  apply List.filter_congr
  intro attr _
  simp only [List.elem_eq_mem, List.mem_eraseDups, decide_not]

example : assignedNames "<a x=\"b='1'\" c = 'd=\"' e".toList = [['x'], ['c']] := by
  decide +kernel

end TagLens.Assist
