import TagLens.Markup.Nesting
import TagLens.Markup.Attribute

/-!
# Where the cursor stands

The text before the cursor decides what may be typed next. The decision looks at the last `<`
that no `>` follows, the *unterminated tag*:

* inside an attribute value when one of the two quotation marks stands in it an odd number of
  times;
* at a closing tag right after `</`;
* at an attribute name when it is an opening tag that already holds blank space, unless an
  equals sign was just typed;
* at an element name when it is an opening tag without blank space;
* nowhere in particular otherwise.

The conditions overlap, so they are tried in this order.
-/

namespace TagLens.Cursor

open Text (doubleQuote singleQuote isBlank occurrences)
open Markup (nameAt? nesting readOpenValue assignedNames documentRoot)

/-- What may be typed at the cursor. -/
inductive Kind where
  | elementName
  | attributeName
  | attributeValue
  | closingTag
  | none
  deriving DecidableEq, Repr

/-- The cursor's surroundings. -/
structure Context where
  kind : Kind
  /-- The innermost open element, or the document itself. -/
  enclosing : Text
  /-- The element whose tag is being typed. -/
  tag : Option Text
  /-- The attribute whose value is being typed. -/
  attr : Option Text
  /-- The attributes already assigned in the tag being typed. -/
  existing : List Text
  deriving DecidableEq, Repr

/-- Neither end of a tag. -/
def isInsideTag (c : Char) : Bool := c != '<' && c != '>'

/-- The text from the last `<` on, if no `>` follows it. -/
def unterminatedTag? (before : Text) : Option Text :=
  match before.reverse.dropWhile isInsideTag with
  | '<' :: _ => some ('<' :: (before.reverse.takeWhile isInsideTag).reverse)
  | _ => none

/-- A closing tag begins with `</`. -/
def isClosing (tag : Text) : Bool := ['<', '/'].isPrefixOf tag

/-- One of the two quotation marks stands in the tag an odd number of times. -/
def hasOpenQuote (tag : Text) : Bool :=
  tag.count doubleQuote % 2 == 1 || tag.count singleQuote % 2 == 1

/-- Is the cursor inside an attribute value? -/
def inAttributeValue (before : Text) : Bool :=
  match unterminatedTag? before with
  | some tag => hasOpenQuote tag
  | none => false

/-- Is the cursor right after `</`? -/
def inClosingTag (before : Text) : Bool := ['<', '/'].isSuffixOf before

/-- Is the cursor at an attribute name? -/
def inAttributeName (before : Text) : Bool :=
  match unterminatedTag? before with
  | some tag =>
    !isClosing tag && tag.any isBlank && !hasOpenQuote tag && tag.getLast? != some '='
  | none => false

/-- Is the cursor at an element name? -/
def inElementName (before : Text) : Bool :=
  match unterminatedTag? before with
  | some tag => !tag.any isBlank && !isClosing tag
  | none => false

/-- What may be typed after `before`. -/
def classify (before : Text) : Kind :=
  if inAttributeValue before then .attributeValue
  else if inClosingTag before then .closingTag
  else if inAttributeName before then .attributeName
  else if inElementName before then .elementName
  else .none

/-- The innermost open element, or the document itself. -/
def enclosingElement (before : Text) : Text := ((nesting before).top?).getD documentRoot

/-- The element name right after the `<` of a tag. -/
def tagElement? : Text → Option Text
  | '<' :: rest => nameAt? rest
  | _ => none

/-- The attribute whose value is left open at the end of a tag. -/
def openAttribute? (tag : Text) : Option Text :=
  (occurrences readOpenValue 0 tag).head?.map (·.value)

/-- The cursor's surroundings, read off the text before it. -/
def context (before : Text) : Context :=
  let kind := classify before
  let tag := (unterminatedTag? before).getD []
  { kind
    enclosing := enclosingElement before
    tag := if kind = .none then none else tagElement? tag
    attr := if kind = .attributeValue then openAttribute? tag else none
    existing := if kind = .attributeName ∨ kind = .elementName then assignedNames tag else [] }

end TagLens.Cursor
