import TagLens.Text.LowerCase
import TagLens.Text.Lines
import TagLens.Markup.Attribute
import TagLens.Schema.Basic
import TagLens.Diagnosis.Finding

/-!
# Validation

Every check reads the raw text; nothing is parsed into a tree, and all checks run whatever
the others find. In order:

* the root element stands somewhere in the text;
* line by line: element names are known, required attributes are assigned on the line of their
  element, and attribute values are acceptable;
* closing tags match opening ones, and no element stays open;
* the text begins with a declaration, if that is asked for.

The attribute checks see single lines: a required attribute on a later line of a tag does not
count.
-/

namespace TagLens.Diagnosis

open Document (Position Range OutOfBounds)
open Markup (openings mentions readValue nesting)
open Text (Occurrence occurrences lines)

/-- A schema with the choice of checks. -/
structure Validator where
  schema : Schema
  checkStructure : Bool := true
  requireDeclaration : Bool := false

/-- The range for problems that concern the document as a whole. -/
def documentStart : Range := .onLine 0 0 10

/-- The position of an offset, found by looking back to the last line feed. -/
def locate (text : Text) (offset : Nat) : Position :=
  let before := text.take offset
  ⟨before.count '\n', (before.reverse.takeWhile (· != '\n')).length⟩

/-- An identifier: an ASCII letter or underscore, then ASCII letters, digits and underscores.
One line feed at the very end is overlooked. -/
def isIdentifier : Text → Bool
  | [] => false
  | c :: rest =>
    let tail := if rest.getLast? = some '\n' then rest.dropLast else rest
    (c.isAlpha || c == '_') && tail.all fun d => d.isAlphanum || d == '_'

/-- A truth value in any case. -/
def isTruthValue (value : Text) : Bool :=
  Text.lower value == "true".toList || Text.lower value == "false".toList

/-! ### Structure -/

/-- Closing tags that close nothing, then elements that stay open. -/
def checkNesting (text : Text) : Except OutOfBounds (List Finding) := do
  let outcome := nesting text
  let unmatched ← outcome.unmatched.mapM fun token => do
    let range ← (Range.mk (locate text token.start) (locate text token.stop)).bounded
    pure (Finding.mk range (.unmatchedClosing token.value.name))
  pure (unmatched ++ outcome.stack.map fun frame => ⟨documentStart, .unclosed frame.name⟩)

/-- The text begins with a declaration, blank space aside. -/
def checkDeclaration (text : Text) : List Finding :=
  if "<?xml".toList.isPrefixOf (Text.trim text) then []
  else [⟨.onLine 0 0 5, .missingDeclaration⟩]

namespace Validator

variable (validator : Validator)

/-! ### Schema checks -/

/-- The root element has to stand somewhere. -/
def checkRoot (text : Text) : List Finding :=
  if mentions validator.schema.root text then []
  else [⟨documentStart, .missingRoot validator.schema.root⟩]

/-- Names after a `<` that are no known elements. -/
def checkElements (line : Text) (index : Int) : Except OutOfBounds (List Finding) :=
  ((openings line).filter fun found => !validator.schema.isKnown found.value).mapM fun found => do
    let range ← (Range.onLine index found.start found.stop).bounded
    pure ⟨range, .unknownElement found.value⟩

/-- Required attributes of the elements on a line that the line does not assign. -/
def missingAttributes (line : Text) : List Problem :=
  (validator.schema.elementsWithRequired.filter fun element => mentions element line).flatMap
    fun element =>
      ((validator.schema.requiredOf element).filter fun attr =>
        !Text.contains (attr ++ ['=']) line).map (.missingAttribute element)

/-- Every required attribute has to be assigned on the line of its element; a complaint
concerns the whole line. -/
def checkRequired (line : Text) (index : Int) : Except OutOfBounds (List Finding) := do
  let range ← (Range.onLine index 0 line.length).bounded
  pure ((validator.missingAttributes line).map fun problem => ⟨range, problem⟩)

/-- The problems of one attribute value. -/
def valueProblems (attr value : Text) : List Problem :=
  let schema := validator.schema
  let domain : List Problem :=
    match schema.domainOf? attr with
    | some domain =>
      if domain.elem value then [] else [.outsideDomain attr value domain]
    | none => []
  let pattern : List Problem :=
    if schema.isPattern attr && !isIdentifier value then [.notIdentifier attr] else []
  let boolean : List Problem :=
    if schema.isBoolean attr && !isTruthValue value then [.notBoolean attr value]
    else []
  domain ++ pattern ++ boolean

/-- Check one attribute value and report its problems at a range. -/
def checkValue (attr value : Text) (range : Range) : List Finding :=
  (validator.valueProblems attr value).map fun problem => ⟨range, problem⟩

/-- The values assigned on a line. -/
def checkValues (line : Text) (index : Int) : Except OutOfBounds (List Finding) := do
  let found ← (occurrences readValue 0 line).mapM fun found => do
    let range ← (Range.onLine index found.start found.stop).bounded
    pure (validator.checkValue found.value.1 found.value.2 range)
  pure found.flatten

/-- All schema checks of one line. -/
def checkLine (line : Text) (index : Int) : Except OutOfBounds (List Finding) := do
  let elements ← validator.checkElements line index
  let required ← validator.checkRequired line index
  let values ← validator.checkValues line index
  pure (elements ++ required ++ values)

/-- The schema checks of all lines. -/
def checkLines (text : Text) : Except OutOfBounds (List Finding) := do
  let found ← (lines text).zipIdx.mapM fun (line, index) => validator.checkLine line index
  pure found.flatten

/-! ### All checks -/

/-- All findings of a document. -/
def validate (text : Text) : Except OutOfBounds (List Finding) := do
  let linewise ← validator.checkLines text
  let structural ← if validator.checkStructure then checkNesting text else pure []
  let declaration :=
    if validator.requireDeclaration then checkDeclaration text else []
  pure (validator.checkRoot text ++ linewise ++ structural ++ declaration)

end Validator
end TagLens.Diagnosis
