import TagLens.Markup.Name

/-!
# Tags

The tolerant view of markup: a tag is a `<`, an optional slash, a name, and anything up to
the next `>`. Nothing else is asked of a document, so comments, declarations and half-typed
tags are simply not tags, and the text between a name and its `>` may hold anything, line
feeds and further `<` included.

`openings` is the still more tolerant view that needs no `>`: every `<` directly followed by
a name.
-/

namespace TagLens.Markup

open Text (Occurrence Reader occurrences)

/-- A tag as the scan sees it. A tag is self-closing when a slash stands right before
its `>`, whatever else it is. -/
structure Tag where
  name : Text
  closing : Bool
  selfClosing : Bool
  deriving DecidableEq, Repr

/-- A tag together with the span it covers. -/
abbrev Token := Occurrence Tag

/-- Drop the slash that makes a tag a closing one. -/
def dropSlash : Text → Text
  | '/' :: rest => rest
  | text => text

/-- Does the text begin with the slash of a closing tag? -/
def startsWithSlash : Text → Bool
  | '/' :: _ => true
  | _ => false

/-- Read a tag at the head of a text. There is none when no `>` follows. -/
def readTag : Reader Tag
  | '<' :: rest =>
    match nameAt? (dropSlash rest) with
    | none => none
    | some name =>
      let afterName := (dropSlash rest).drop name.length
      let body := afterName.takeWhile (· != '>')
      if List.elem '>' afterName then
        let closing := startsWithSlash rest
        some (⟨name, closing, body.getLast? == some '/'⟩,
          1 + closing.toNat + name.length + body.length + 1)
      else none
  | _ => none

/-- The tags of a text, from left to right. -/
def tokens (text : Text) : List Token := occurrences readTag 0 text

/-- Read a `<` that is directly followed by a name. -/
def readOpening : Reader Text
  | '<' :: rest => (nameAt? rest).map fun name => (name, 1 + name.length)
  | _ => none

/-- Every `<` directly followed by a name, finished tag or not. -/
def openings (text : Text) : List (Occurrence Text) := occurrences readOpening 0 text

/-- Does `<name` stand in the text, where `name` is not continued to a longer name? -/
def mentions (name : Text) : Text → Bool
  | [] => false
  | c :: rest =>
    let here := c == '<' && name.isPrefixOf rest &&
      (match rest.drop name.length with
        | next :: _ => !isNameChar next
        | [] => true)
    here || mentions name rest

end TagLens.Markup
