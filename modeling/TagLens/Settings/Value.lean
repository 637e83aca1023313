import TagLens.Location.Path
import TagLens.Text.Digit
import TagLens.Text.Quoted
import TagLens.Number.Double
import TagLens.Settings.Moment

/-!
# Values that settings may hold

Settings come from configuration files, the environment, clients and callers, so a value can be
anything that these can express. `Value.render` writes a value as it is quoted in a message.
Not every value can be quoted: `Value.quoteFault?` looks for integers with too many digits and
for values nested too deeply, in the order in which they would be written. How deep is too deep
depends on the room that is left where the message is written.
-/

namespace TagLens.Settings

open Location (Path)

/-- A value in a configuration. -/
inductive Value where
  | null
  | boolean (value : Bool)
  | integer (value : Int)
  | real (value : Number.Double)
  | text (value : String)
  /-- A path that a caller gives as one. -/
  | path (value : Path)
  | moment (value : Moment)
  | list (items : List Value)
  | table (entries : List (String × Value))
  deriving Repr, Inhabited

/-- A table of named values in the order in which they were given. -/
abbrev Table := List (String × Value)

namespace Value

/-- The name of a value's type in messages. -/
def typeName : Value → String
  | .null => "NoneType"
  | .boolean _ => "bool"
  | .integer _ => "int"
  | .real _ => "float"
  | .text _ => "str"
  | .path _ => "PosixPath"
  | .moment m => m.typeName
  | .list _ => "list"
  | .table _ => "dict"

mutual

/-- The value as it is quoted in a message. -/
def render : Value → String
  | .null => "None"
  | .boolean value => if value then "True" else "False"
  | .integer value => toString value
  | .real value => value.render
  | .text value => Text.quotedString value
  | .path value => "PosixPath(" ++ Text.quotedString value.render ++ ")"
  | .moment value => value.render
  | .list items => "[" ++ ", ".intercalate (renderItems items) ++ "]"
  | .table entries => "\x7b" ++ ", ".intercalate (renderEntries entries) ++ "\x7d"

/-- The items of a list as they are quoted. -/
def renderItems : List Value → List String
  | [] => []
  | item :: rest => item.render :: renderItems rest

/-- The entries of a table as they are quoted. -/
def renderEntries : List (String × Value) → List String
  | [] => []
  | (key, value) :: rest =>
    (Text.quotedString key ++ ": " ++ value.render) :: renderEntries rest

end

/-- Why a value cannot be quoted in a message. -/
inductive QuoteFault where
  | overlongInteger
  | tooDeep
  deriving DecidableEq, Repr

/-- The fault in words. -/
def QuoteFault.message : QuoteFault → String
  | .overlongInteger => Text.Overlong.writing.message
  | .tooDeep => "maximum recursion depth exceeded while getting the repr of an object"

mutual

/-- The first reason why a value cannot be quoted within some levels. -/
def quoteFaultWithin? : Value → Nat → Option QuoteFault
  | _, 0 => some .tooDeep
  | .integer value, _ => if Text.isWritable value then none else some .overlongInteger
  | .list items, levels + 1 => itemsFaultWithin? items levels
  | .table entries, levels + 1 => entriesFaultWithin? entries levels
  | .null, _ | .boolean _, _ | .real _, _ | .text _, _ | .path _, _ | .moment _, _ => none

/-- The first reason why items cannot be quoted. -/
def itemsFaultWithin? : List Value → Nat → Option QuoteFault
  | [], _ => none
  | item :: rest, levels => (item.quoteFaultWithin? levels).or (itemsFaultWithin? rest levels)

/-- The first reason why the entries of a table cannot be quoted. -/
def entriesFaultWithin? : List (String × Value) → Nat → Option QuoteFault
  | [], _ => none
  | (_, value) :: rest, levels =>
    (value.quoteFaultWithin? levels).or (entriesFaultWithin? rest levels)

end

/-- The first reason why a value cannot be quoted, where there is room for this many levels below
the value itself. -/
def quoteFault? (room : Nat) (value : Value) : Option QuoteFault :=
  value.quoteFaultWithin? (room + 1)

end Value
end TagLens.Settings
