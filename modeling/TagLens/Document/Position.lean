/-!
# Positions and ranges

A position is a line and a character, both counted from zero. Requests and arithmetic may
produce any integers; what is shown to a client has to fit the protocol's bounds, and
`Position.bounded` and `Range.bounded` check that. The line is checked before the character,
and the start of a range before its end.
-/

namespace TagLens.Document

/-- A place in a document. -/
structure Position where
  line : Int
  character : Int
  deriving DecidableEq, Repr

/-- A stretch of a document. -/
structure Range where
  start : Position
  stop : Position
  deriving DecidableEq, Repr

/-- The integers whose size a client's protocol limits. -/
inductive Quantity where
  | line
  | character
  /-- The version of a document that is being opened. -/
  | openedVersion
  /-- The version of a document that is being edited. -/
  | editedVersion
  deriving DecidableEq, Repr

namespace Quantity

/-- The name under which the quantity is reported. -/
def label : Quantity → String
  | .line => "Position.line"
  | .character => "Position.character"
  | .openedVersion => "TextDocumentItem.version"
  | .editedVersion => "VersionedTextDocumentIdentifier.version"

/-- The least allowed value. -/
def least : Quantity → Int
  | .line | .character => 0
  | .openedVersion | .editedVersion => -2147483648

/-- The greatest allowed value. -/
def greatest (_ : Quantity) : Int := 2147483647

end Quantity

/-- A quantity that lies outside its bounds. -/
structure OutOfBounds where
  quantity : Quantity
  value : Int
  deriving DecidableEq, Repr

/-- The complaint about a quantity outside its bounds. -/
def OutOfBounds.message (fault : OutOfBounds) : String :=
  fault.quantity.label ++ " should be in range [" ++ toString fault.quantity.least ++ ":"
    ++ toString fault.quantity.greatest ++ "], but was " ++ toString fault.value ++ "."

/-- Let a quantity pass when it lies within its bounds. -/
def Quantity.bounded (quantity : Quantity) (value : Int) : Except OutOfBounds Int :=
  if quantity.least ≤ value ∧ value ≤ quantity.greatest then .ok value
  else .error ⟨quantity, value⟩

/-- Let a position pass when its line and its character lie within their bounds. -/
def Position.bounded (position : Position) : Except OutOfBounds Position := do
  let line ← Quantity.line.bounded position.line
  let character ← Quantity.character.bounded position.character
  pure ⟨line, character⟩

/-- Let a range pass when both of its ends lie within their bounds. -/
def Range.bounded (range : Range) : Except OutOfBounds Range := do
  let start ← range.start.bounded
  let stop ← range.stop.bounded
  pure ⟨start, stop⟩

/-- The stretch of one line from a first to a last character. -/
def Range.onLine (line first last : Int) : Range := ⟨⟨line, first⟩, ⟨line, last⟩⟩

end TagLens.Document
