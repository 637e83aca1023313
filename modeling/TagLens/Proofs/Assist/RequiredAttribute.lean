import TagLens.Proofs.Markup.AssignedName
import TagLens.Proofs.Assist.ElementSnippet

/-!
# The required attributes that a tag lacks

Two parts of the assistant know which required attributes are still missing from a tag. Completion
marks them among the attributes it offers (`markedRequired`), and it goes by the names that the
tag assigns: what is marked are the required attributes that no attribute of the tag is named
(`mem_markedRequired_iff`). Validation looks for the name and an equals sign on the line of the
tag, so it also takes an attribute for present that the tag only shows (`Attribute.Shows`).
`checkRequired_openText` says what validation finds about a tag, and when the two agree.
-/

namespace TagLens.Assist

open Document (Range)
open Diagnosis (Validator Reachable listSchema)
open Markup (IsName StartTag assignedNames mentions noSpace)
open Text (doubleQuote singleQuote)

/-! ## What completion marks -/

/-- The attributes among the offers that are marked as required. -/
def markedRequired (items : List Item) : List Text :=
  (items.filter fun item => item.detail == item.label ++ " attribute (required)".toList).map
    (·.label)

/-- The required attributes of a tag's element that no attribute of the tag is named. -/
def unnamedRequired (schema : Schema) (tag : StartTag) : List Text :=
  (schema.requiredOf tag.name).filter (!(tag.attributes.map (·.name)).elem ·)

/-- The required attributes of a tag's element that no attribute of the tag shows. -/
def unseenRequired (schema : Schema) (tag : StartTag) : List Text :=
  (schema.requiredOf tag.name).filter fun attr => ∀ other ∈ tag.attributes, ¬ other.Shows attr

theorem not_elem_iff {names : List Text} {name : Text} :
    (!names.elem name) = true ↔ name ∉ names := by simp

theorem exists_mem_itemize {labels : List Text} {label : Text} (h : label ∈ labels)
    (make : Text → Text → Item) : ∃ key, make label key ∈ itemize labels make := by
  obtain ⟨index, hindex⟩ := List.mem_iff_getElem?.mp (List.mem_eraseDups.mpr h)
  refine ⟨sortKey index, List.mem_map.mpr ⟨(label, index), ?_, rfl⟩⟩
  exact List.mem_zipIdx_iff_getElem?.mpr hindex

section

variable {schema : Schema} {element : Text}

theorem nodup_markedRequired (h : element ≠ []) (existing : List Text) :
    (markedRequired (attributeItems schema (some element) existing)).Nodup := by
  rw [attributeItems_some h, markedRequired]
  refine List.Sublist.nodup (List.Sublist.map _ List.filter_sublist) ?_
  rw [map_label_itemize fun _ _ => rfl]
  exact Schema.nodup_eraseDups _

/-- What is marked is required and not there yet, provided that the element has what it
requires. -/
theorem mem_markedRequired_iff (h : element ≠ [])
    (hdeclared : ∀ attr ∈ schema.requiredOf element, attr ∈ schema.attributesOf element)
    (existing : List Text) (attr : Text) :
    attr ∈ markedRequired (attributeItems schema (some element) existing)
      ↔ attr ∈ schema.requiredOf element ∧ attr ∉ existing := by
  rw [attributeItems_some h, markedRequired]
  constructor
  · intro hattr
    obtain ⟨item, hitem, rfl⟩ := List.mem_map.mp hattr
    obtain ⟨hoffer, hdetail⟩ := List.mem_filter.mp hitem
    obtain ⟨label, hlabel, key, rfl⟩ := exists_of_mem_itemize hoffer
    refine ⟨?_, by simpa using (List.mem_filter.mp hlabel).2⟩
    -- the two details differ, so the mark tells whether the attribute is required
    by_contra hnot
    rw [beq_iff_eq, List.append_cancel_left_eq, if_neg (by simpa using hnot)] at hdetail
    exact absurd hdetail (by decide)
  · rintro ⟨hrequired, habsent⟩
    have hlabels : attr ∈ (schema.attributesOf element).filter (!existing.elem ·) := by
      rw [List.mem_filter]
      exact ⟨hdeclared attr hrequired, by simpa using habsent⟩
    obtain ⟨key, hoffer⟩ := exists_mem_itemize hlabels _
    refine List.mem_map.mpr ⟨_, List.mem_filter.mpr ⟨hoffer, ?_⟩, rfl⟩
    simp [hrequired]

end

/-! ## What validation looks for -/

/-- Only the tag's own element stands on the line of a tag. -/
theorem mentions_openText {element : Text} (h : IsName element) (tag : StartTag) :
    mentions element tag.openText = true ↔ element = tag.name := by
  have htext : tag.openText = Markup.textOf [.opening tag] := by
    simp [Markup.Piece.text]
  rw [Markup.mentions_iff h, htext]
  constructor
  · rintro ⟨tail, hsuffix, hname⟩
    obtain ⟨other, hother, rfl⟩ :=
      Markup.exists_startTag_of_suffix (by simp) hsuffix hname
    obtain rfl : other = tag := by simpa [Markup.startTags, Markup.Piece.startTag?] using hother
    rfl
  · rintro rfl
    exact Markup.exists_suffix_of_startTag (by simp [Markup.startTags, Markup.Piece.startTag?])

/-- The problems of a line with one tag are the attributes that its element requires and that the
tag does not show. -/
theorem missingAttributes_openText {validator : Validator}
    (hnames : ∀ element ∈ validator.schema.elementsWithRequired, IsName element)
    (hattrs : ∀ element, ∀ attr ∈ validator.schema.requiredOf element, IsName attr)
    (hkeys : validator.schema.elementsWithRequired.Nodup) (tag : StartTag) :
    validator.missingAttributes tag.openText
      = (unseenRequired validator.schema tag).map (.missingAttribute tag.name) := by
  have hfilter : (validator.schema.elementsWithRequired.filter fun element =>
      mentions element tag.openText)
        = validator.schema.elementsWithRequired.filter (· == tag.name) := by
    apply List.filter_congr
    intro element helement
    rw [Bool.eq_iff_iff, beq_iff_eq]
    exact mentions_openText (hnames element helement) tag
  have hunseen : ((validator.schema.requiredOf tag.name).filter fun attr =>
      !Text.contains (attr ++ ['=']) tag.openText) = unseenRequired validator.schema tag := by
    apply List.filter_congr
    intro attr hattr
    have hshown : Text.contains (attr ++ ['=']) tag.openText = true
        ↔ ∃ other ∈ tag.attributes, other.Shows attr := by
      rw [Text.contains_iff_infix]
      exact tag.assignment_infix_iff (hattrs tag.name attr hattr)
    rw [Bool.eq_iff_iff, Bool.not_eq_true', ← Bool.not_eq_true, hshown]
    simp
  rw [Validator.missingAttributes, hfilter, List.filter_beq]
  by_cases hmem : tag.name ∈ validator.schema.elementsWithRequired
  · rw [hkeys.count, if_pos hmem, List.replicate_one, List.flatMap_singleton, hunseen]
  · rw [List.count_eq_zero.mpr hmem, List.replicate_zero, unseenRequired,
      Schema.requiredOf_eq_nil hmem]
    rfl

/-- An attribute shows its own name. -/
theorem unseenRequired_eq_filter (schema : Schema) (tag : StartTag) :
    unseenRequired schema tag
      = (unnamedRequired schema tag).filter fun attr =>
          ∀ other ∈ tag.attributes, ¬ other.Shows attr := by
  rw [unnamedRequired, List.filter_filter, unseenRequired]
  apply List.filter_congr
  intro attr _
  rw [Bool.eq_iff_iff, Bool.and_eq_true, decide_eq_true_eq, not_elem_iff]
  refine (and_iff_left_of_imp ?_).symm
  intro hunseen hnamed
  obtain ⟨other, hother, rfl⟩ := List.mem_map.mp hnamed
  exact hunseen other hother (.inl List.suffix_rfl)

/-! ## The two compared -/

section

variable {tables : Schema.Tables} {schema : Schema} (hschema : Schema.ofTables tables = .ok schema)

include hschema

/-- An element stands once among those that require attributes. -/
theorem nodup_elementsWithRequired (hkeys : (tables.required.map (·.1)).Nodup) :
    schema.elementsWithRequired.Nodup := by
  obtain ⟨-, hrequired, -⟩ := Schema.ofTables_eq_ok hschema
  have hsame : schema.required.map (·.1) = tables.required.map (·.1) := by
    rw [hrequired, Schema.tidy, List.map_map]
    rfl
  rw [← hsame] at hkeys
  exact (List.Sublist.map _ List.filter_sublist).nodup hkeys

/-- **Completion marks the required attributes that are not named**, each once. -/
theorem markedRequired_perm (tag : StartTag) :
    (markedRequired (attributeItems schema (some tag.name) (assignedNames tag.headText))).Perm
      (unnamedRequired schema tag) := by
  have hne := tag.isName.ne_nil
  have hdeclared : ∀ attr ∈ schema.requiredOf tag.name, attr ∈ schema.attributesOf tag.name := by
    intro attr hattr
    exact Schema.mem_attributesOf_of_mem_requiredOf hschema hattr
  have hnodup : (unnamedRequired schema tag).Nodup :=
    (Schema.nodup_requiredOf hschema tag.name).filter _
  rw [List.perm_ext_iff_of_nodup (nodup_markedRequired hne _) hnodup]
  intro attr
  rw [mem_markedRequired_iff hne hdeclared, StartTag.assignedNames_headText, List.mem_eraseDups,
    unnamedRequired, List.mem_filter, not_elem_iff]

end

/-- **Missing attributes of a tag.** Completion behind the attributes of a tag marks exactly the
required attributes of the element that are not among the names of the tag's attributes. On the
line of the tag validation finds, in the order of their declaration and once each, those required
attributes that no attribute of the tag shows: no name ends in them, and no value holds them in
front of an equals sign. These are among the marked ones, and they are all of the marked ones
exactly when none of the marked ones is shown. -/
theorem checkRequired_openText (tables : Schema.Tables) (validator : Validator)
    (hschema : Schema.ofTables tables = .ok validator.schema)
    (hkeys : (tables.required.map (·.1)).Nodup) (hnamed : Named tables) (tag : StartTag)
    (index : Nat) :
    (markedRequired
        (attributeItems validator.schema (some tag.name) (assignedNames tag.headText))).Perm
      (unnamedRequired validator.schema tag)
    ∧ (∀ found, validator.checkRequired tag.openText index = .ok found
        ↔ Reachable index tag.openText.length
          ∧ found = (unseenRequired validator.schema tag).map fun attr =>
              ⟨Range.onLine index 0 tag.openText.length, .missingAttribute tag.name attr⟩)
    ∧ (unseenRequired validator.schema tag).Sublist (unnamedRequired validator.schema tag)
    ∧ (unseenRequired validator.schema tag = unnamedRequired validator.schema tag
        ↔ ∀ attr ∈ unnamedRequired validator.schema tag,
            ∀ other ∈ tag.attributes, ¬ other.Shows attr) := by
  have hmissing := missingAttributes_openText
    (fun _ => isName_of_mem_elementsWithRequired hschema hnamed)
    (fun _ _ => isName_of_mem_requiredOf hschema hnamed)
    (nodup_elementsWithRequired hschema hkeys) tag
  refine ⟨markedRequired_perm hschema tag, ?_, ?_, ?_⟩
  · intro found
    rw [Diagnosis.checkRequired_eq_ok_iff, hmissing, List.map_map]
    rfl
  · rw [unseenRequired_eq_filter]
    exact List.filter_sublist
  · rw [unseenRequired_eq_filter, List.filter_eq_self]
    simp

theorem isName_item : IsName "item".toList := by decide

/-- An item with a name that ends in that of a required attribute, and with a value that assigns
something. -/
def monkeyItem : StartTag where
  name := "item".toList
  attributes :=
    [.plain "monkey".toList doubleQuote "done=1".toList rfl,
      .plain "note".toList singleQuote "\"state\"".toList rfl]
  space := noSpace
  isName := isName_item
  unmarked := by decide

theorem checkRequired_openText_monkeyItem :
    monkeyItem.openText = "<item monkey=\"done=1\" note='\"state\"'>".toList
      ∧ unnamedRequired strictSchema monkeyItem = ["key".toList, "state".toList]
      ∧ Validator.checkRequired { schema := strictSchema } monkeyItem.openText 3
          = .ok [⟨Range.onLine 3 0 37, .missingAttribute "item".toList "state".toList⟩] := by
  have hunseen : unseenRequired strictSchema monkeyItem = ["state".toList] := by decide
  obtain ⟨-, hfound, -, -⟩ := checkRequired_openText strictTables { schema := strictSchema } rfl
    (by decide) ⟨by decide, by decide⟩ monkeyItem 3
  refine ⟨by decide, by decide, (hfound _).mpr ⟨by decide, ?_⟩⟩
  rw [hunseen]
  rfl

/-- An item whose note speaks of a key. -/
def notedItem : StartTag where
  name := "item".toList
  attributes := [.plain "note".toList doubleQuote "key=7".toList rfl]
  space := noSpace
  isName := isName_item
  unmarked := by decide

/-- A value that speaks of an assignment hides that the attribute is missing, although completion
marks it. -/
theorem checkRequired_notedItem :
    notedItem.openText = "<item note=\"key=7\">".toList
      ∧ markedRequired (attributeItems listSchema (some "item".toList)
          (assignedNames notedItem.headText)) = ["key".toList]
      ∧ Validator.checkRequired { schema := listSchema } notedItem.openText 0 = .ok [] := by
  refine ⟨by decide, ?_, by decide⟩
  rw [StartTag.assignedNames_headText]
  decide

end TagLens.Assist
