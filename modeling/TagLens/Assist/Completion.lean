import TagLens.Schema.Basic
import TagLens.Cursor.Context

/-!
# Suggestions

What may be typed at the cursor, as a list of items in declaration order. An item's sort key
is its index in four digits, so that clients that sort by it keep that order.
-/

namespace TagLens.Assist

open Cursor (Context)
open Markup (openElements)

/-- What a suggestion stands for. -/
inductive ItemKind where
  /-- An element, to be opened or closed. -/
  | element
  | attr
  | value
  deriving DecidableEq, Repr

/-- One suggestion. -/
structure Item where
  label : Text
  kind : ItemKind
  detail : Text
  /-- The text to be typed; in a snippet, `$1`, `$2`, … are the places to be filled in. -/
  insertText : Text
  snippet : Bool
  sortText : Text
  deriving DecidableEq, Repr

/-- A number in at least four digits. -/
def sortKey (index : Nat) : Text :=
  let digits := Nat.toDigits 10 index
  List.replicate (4 - digits.length) '0' ++ digits

/-- Number the labels of a list, dropping repetitions, and make an item of each. -/
def itemize (labels : List Text) (item : Text → Text → Item) : List Item :=
  labels.eraseDups.zipIdx.map fun (label, index) => item label (sortKey index)

theorem exists_of_mem_itemize {labels : List Text} {make : Text → Text → Item} {item : Item}
    (h : item ∈ itemize labels make) : ∃ label ∈ labels, ∃ key, item = make label key := by
  obtain ⟨⟨label, index⟩, hentry, rfl⟩ := List.mem_map.mp h
  have hlabel : label ∈ labels.eraseDups := List.fst_mem_of_mem_zipIdx hentry
  exact ⟨label, List.mem_eraseDups.mp hlabel, sortKey index, rfl⟩

/-- What the items show of the labels they are made of comes in the order of the list, each once. -/
theorem map_itemize {α : Type} {make : Text → Text → Item} {shown : Item → α} {value : Text → α}
    (h : ∀ label key, shown (make label key) = value label) (labels : List Text) :
    (itemize labels make).map shown = labels.eraseDups.map value := by
  calc (itemize labels make).map shown
      = labels.eraseDups.zipIdx.map (value ∘ Prod.fst) := by
        rw [itemize, List.map_map]
        apply List.map_congr_left
        intro entry _
        exact h entry.1 (sortKey entry.2)
    _ = labels.eraseDups.map value := by
        rw [← List.map_map, List.zipIdx_map_fst]

theorem map_label_itemize {make : Text → Text → Item}
    (h : ∀ label key, (make label key).label = label) (labels : List Text) :
    (itemize labels make).map (·.label) = labels.eraseDups := by
  rw [map_itemize h, List.map_id']

/-- The place to be filled in with a given number. -/
def placeholder (number : Nat) : Text := '$' :: Nat.toDigits 10 number

/-- An attribute with a place for its value. -/
def slot (attr : Text) (number : Nat) : Text :=
  attr ++ ['=', Text.doubleQuote] ++ placeholder number ++ [Text.doubleQuote]

/-- The snippet that completes an element after its `<`: the required attributes with places
for their values, a place for the content, and the closing tag. -/
def elementSnippet (schema : Schema) (element : Text) : Text :=
  let required := schema.requiredOf element
  let slots := required.zipIdx.flatMap fun (attr, index) => ' ' :: slot attr (index + 1)
  element ++ slots ++ ['>'] ++ placeholder (required.length + 1)
    ++ ['<', '/'] ++ element ++ ['>']

/-- The elements that may stand inside `parent`. -/
def elementItems (schema : Schema) (parent : Text) : List Item :=
  itemize (schema.childrenOf parent) fun element sortText =>
    { label := element
      kind := .element
      detail := element ++ " element".toList
      insertText := elementSnippet schema element
      snippet := true
      sortText }

/-- The attributes of an element that are not yet there. -/
def attributeItems (schema : Schema) (element : Option Text) (existing : List Text) :
    List Item :=
  match element with
  | none | some [] => []
  | some element =>
    itemize ((schema.attributesOf element).filter (!existing.elem ·)) fun attr sortText =>
      { label := attr
        kind := .attr
        detail := attr ++ (if (schema.requiredOf element).elem attr then
          " attribute (required)".toList else " attribute".toList)
        insertText := slot attr 1
        snippet := true
        sortText }

/-- Offers for a proper element are one item for each attribute that is not there yet. -/
theorem attributeItems_some {schema : Schema} {element : Text} (h : element ≠ [])
    (existing : List Text) :
    attributeItems schema (some element) existing
      = itemize ((schema.attributesOf element).filter (!existing.elem ·)) fun attr sortText =>
          { label := attr
            kind := .attr
            detail := attr ++ (if (schema.requiredOf element).elem attr then
              " attribute (required)".toList else " attribute".toList)
            insertText := slot attr 1
            snippet := true
            sortText } := by
  cases element with
  | nil => exact absurd rfl h
  | cons c rest => rfl

/-- The values an attribute may take. -/
def valueItems (schema : Schema) (attr : Option Text) : List Item :=
  match attr with
  | none | some [] => []
  | some attr =>
    itemize ((schema.domainOf? attr).getD []) fun value sortText =>
      { label := value
        kind := .value
        detail := "Valid value for ".toList ++ attr
        insertText := value
        snippet := false
        sortText }

theorem valueItems_some {schema : Schema} {attr : Text} (h : attr ≠ []) :
    valueItems schema (some attr)
      = itemize ((schema.domainOf? attr).getD []) fun value sortText =>
          { label := value
            kind := .value
            detail := "Valid value for ".toList ++ attr
            insertText := value
            snippet := false
            sortText } := by
  cases attr with
  | nil => exact absurd rfl h
  | cons c rest => rfl

/-- The open elements, innermost first. -/
def closingItems (before : Text) : List Item :=
  itemize (openElements before).reverse fun element sortText =>
    { label := element
      kind := .element
      detail := "Close ".toList ++ element ++ " element".toList
      insertText := element ++ ['>']
      snippet := false
      sortText }

/-- The suggestions for a cursor's surroundings. -/
def itemsFor (schema : Schema) (context : Context) (before : Text) : List Item :=
  match context.kind with
  | .attributeValue => valueItems schema context.attr
  | .closingTag => closingItems before
  | .attributeName => attributeItems schema context.tag context.existing
  | .elementName => elementItems schema context.enclosing
  | .none => []

/-- The suggestions after the text before the cursor. -/
def complete (schema : Schema) (before : Text) : List Item :=
  itemsFor schema (Cursor.context before) before

end TagLens.Assist
