import TagLens.Document.Position
import TagLens.Markup.Tag
import TagLens.Markup.Attribute
import TagLens.Schema.Basic

/-!
# Documentation under the cursor

The element or attribute name that the cursor touches on a line, and what the schema tells
about it. The cursor touches a name when it stands in front of it, in it or right behind it.
Elements are looked for first; an element without documentation leaves the cursor to the
attributes.
-/

namespace TagLens.Assist

open Document (Range OutOfBounds)
open Markup (nameAt? dropSlash startsWithSlash readOpening readSlot)
open Text (Occurrence Reader occurrences)

/-- A piece of documentation and the range of the name it belongs to. -/
structure Hover where
  markdown : String
  range : Range
  deriving DecidableEq, Repr

/-- An attribute name on a line with the element it belongs to. -/
structure AttributeSite where
  owner : Text
  name : Text
  start : Nat
  stop : Nat
  deriving DecidableEq, Repr

/-! ### What the cursor touches -/

/-- Read a `<`, an optional slash and a name; the value is the name and how many characters
stand before it. -/
def readElementName : Reader (Text × Nat)
  | '<' :: rest =>
    (nameAt? (dropSlash rest)).map fun name =>
      let before := 1 + (startsWithSlash rest).toNat
      ((name, before), before + name.length)
  | _ => none

/-- The element name that the cursor touches. -/
def elementAt? (line : Text) (character : Int) : Option (Occurrence Text) :=
  ((occurrences readElementName 0 line).map fun found =>
    Occurrence.mk (found.start + found.value.2) found.stop found.value.1).find? fun found =>
      (found.start : Int) ≤ character && character ≤ found.stop

/-- The attributes of a tag whose name ends at `offset`: the assignments from there up to the
next `>`. The span of an attribute is that of its name. -/
def attributesFrom (line : Text) (offset : Nat) : List (Occurrence Text) :=
  let rest := (line.drop offset).takeWhile (· != '>')
  (occurrences readSlot offset rest).map fun found =>
    ⟨found.start, found.start + found.value.length, found.value⟩

/-- The attribute name that the cursor touches, in the last tag opened before the cursor. -/
def attributeAt? (line : Text) (character : Int) : Option AttributeSite :=
  match (occurrences readOpening 0 (line.take character.toNat)).getLast? with
  | none => none
  | some owner =>
    ((attributesFrom line owner.stop).find? fun found =>
      (found.start : Int) ≤ character && character ≤ found.stop).map fun found =>
        ⟨owner.value, found.value, found.start, found.stop⟩

/-! ### What is told about it -/

/-- An attribute's description followed by the values it may take. -/
def describeAttribute (schema : Schema) (doc : Documentation) (attr : Text) : String :=
  let text := (doc.attr? attr).getD ""
  match schema.domainOf? attr with
  | none | some [] => text
  | some domain =>
    let values := "Values: " ++
      ", ".intercalate (domain.map fun value => "`" ++ String.ofList value ++ "`")
    if text.isEmpty then values else text ++ " " ++ values

/-- A row of the table of attributes. -/
def attributeRow (schema : Schema) (element : Text) (doc : Documentation) (attr : Text) :
    String :=
  let flag := if (schema.requiredOf element).elem attr then "yes" else ""
  "| `" ++ String.ofList attr ++ "` | " ++ flag ++ " | "
    ++ describeAttribute schema doc attr ++ " |"

/-- The documentation of an element: a heading, its description and details, and a table of
its attributes, the declared ones before those that are only documented. -/
def elementMarkdown (schema : Schema) (element : Text) (doc : Documentation) : String :=
  let details := if doc.details.isEmpty then [] else [doc.details]
  let attributes := (schema.attributesOf element ++ doc.attributes.map (·.1)).eraseDups
  let table :=
    if attributes.isEmpty then []
    else
      ["### Attributes\n\n" ++ "\n".intercalate
        (["| Attribute | Required | Description |", "| --- | --- | --- |"]
          ++ attributes.map (attributeRow schema element doc))]
  "\n\n".intercalate
    (["## " ++ String.ofList element, doc.description] ++ details ++ table) ++ "\n"

/-- The documentation of an attribute. -/
def attributeMarkdown (site : AttributeSite) (description : String) : String :=
  "**" ++ String.ofList site.name ++ "** (" ++ String.ofList site.owner ++ ")\n\n" ++ description

/-- What the schema tells about the element name that the cursor touches, with its span. -/
def elementHover? (schema : Schema) (line : Text) (character : Int) :
    Option (Occurrence String) := do
  let found ← elementAt? line character
  let doc ← schema.documentationOf? found.value
  pure ⟨found.start, found.stop, elementMarkdown schema found.value doc⟩

/-- What the schema tells about the attribute name that the cursor touches, with its span. An
empty description tells nothing. -/
def attributeHover? (schema : Schema) (line : Text) (character : Int) :
    Option (Occurrence String) := do
  let site ← attributeAt? line character
  let doc ← schema.documentationOf? site.owner
  let description ← doc.attr? site.name
  if description.isEmpty then none
  else pure ⟨site.start, site.stop, attributeMarkdown site description⟩

/-- What the schema tells about the name that the cursor touches. -/
def hover (schema : Schema) (line : Text) (index character : Int) :
    Except OutOfBounds (Option Hover) :=
  let found? := (elementHover? schema line character).or (attributeHover? schema line character)
  match found? with
  | none => .ok none
  | some found => do
    let range ← (Range.onLine index found.start found.stop).bounded
    pure (some ⟨found.value, range⟩)

end TagLens.Assist
