import TagLens.Text.Digit

/-!
# Configuration files: characters and faults

The classes of characters that the TOML format tells apart, what may be skipped between its
parts, and what can be wrong with a document.
-/

namespace TagLens.Settings.Toml

/-- What is wrong with a document. -/
inductive Fault where
  | invalidStatement
  | trailingText
  | invalidKey
  | missingEquals
  | invalidValue
  | invalidString
  | invalidMoment
  | invalidCharacter
  | unclosedArray
  | unclosedTable
  | unclosedHeader
  | redefinition
  /-- An integer with too many digits: the document may be well formed, but it is not read. -/
  | overlongInteger (overlong : Text.Overlong)
  /-- Values nested too deeply: again the document may be well formed. -/
  | tooDeep
  deriving DecidableEq, Repr

/-- The fault in words. -/
def Fault.message : Fault → String
  | .invalidStatement => "Invalid statement"
  | .trailingText => "Expected newline or end of document after a statement"
  | .invalidKey => "Invalid initial character for a key part"
  | .missingEquals => "Expected '=' after a key in a key/value pair"
  | .invalidValue => "Invalid value"
  | .invalidString => "Invalid string"
  | .invalidMoment => "Invalid date or datetime"
  | .invalidCharacter => "Found invalid character"
  | .unclosedArray => "Unclosed array"
  | .unclosedTable => "Unclosed inline table"
  | .unclosedHeader => "Unclosed table declaration"
  | .redefinition => "Cannot overwrite a value"
  | .overlongInteger overlong => overlong.message
  | .tooDeep => "maximum recursion depth exceeded"

/-! ### Characters -/

/-- Space within a line. -/
def isSpace (c : Char) : Bool := c == ' ' || c == '\t'

/-- Space within an array or after a line continuation. -/
def isSpaceOrNewline (c : Char) : Bool := isSpace c || c == '\n'

/-- May the character stand in a key without quotes? -/
def isBareKeyChar (c : Char) : Bool := c.isAlphanum || c == '-' || c == '_'

/-- A control character other than the tab; none may stand in a comment or a string. -/
def isControl (c : Char) : Bool := (c.toNat < 0x20 && c != '\t') || c.toNat == 0x7f

/-- Drop space within a line. -/
def skipSpace (text : Text) : Text := text.dropWhile isSpace

/-- Drop a comment, if there is one, up to the end of its line. -/
def skipComment : Text → Except Fault Text
  | '#' :: rest =>
    let comment := rest.takeWhile (· != '\n')
    if comment.any isControl then .error .invalidCharacter
    else .ok (rest.dropWhile (· != '\n'))
  | text => .ok text

/-- Drop space, line feeds and comments within an array. -/
def skipFiller (fuel : Nat) (text : Text) : Except Fault Text :=
  match fuel with
  | 0 => .ok text
  | fuel + 1 => do
    let rest := text.dropWhile isSpaceOrNewline
    match rest with
    | '#' :: _ => skipFiller fuel (← skipComment rest)
    | _ => .ok rest

end TagLens.Settings.Toml
