import TagLens.Settings.Toml.Scalar
import TagLens.Settings.Toml.Text

/-!
# Configuration files: values

Any value, arrays and inline tables included. What an inline table has been given as a value
is closed: later keys of the same table cannot add to it. Values are nested within a limited
room, of which every array and every inline table around a value takes its share.
-/

namespace TagLens.Settings.Toml

/-! ### Tables under construction -/

/-- Replace the value of a key that is already there. -/
def replaceValue (table : Table) (key : String) (value : Value) : Table :=
  table.map fun entry => if entry.1 == key then (key, value) else entry

/-- Change the table that a key leads to, making tables on the way where there are none. With
`throughLists`, an array of tables leads to its last table. -/
def modifyAt (throughLists : Bool) (change : Table → Option Table) :
    Key → Table → Option Table
  | [], table => change table
  | name :: rest, table =>
    match table.lookup name with
    | none =>
      (modifyAt throughLists change rest []).map fun inner => table ++ [(name, .table inner)]
    | some (.table inner) =>
      (modifyAt throughLists change rest inner).map fun changed =>
        replaceValue table name (.table changed)
    | some (.list items) =>
      match throughLists, items.getLast? with
      | true, some (.table inner) =>
        (modifyAt throughLists change rest inner).map fun changed =>
          replaceValue table name (.list (items.dropLast ++ [.table changed]))
      | _, _ => none
    | some _ => none

/-- Add an entry under a new key. -/
def addEntry (name : String) (value : Value) (table : Table) : Option Table :=
  if (table.lookup name).isSome then none else some (table ++ [(name, value)])

/-- Add an empty table to the array of tables under a key. -/
def addToList (name : String) (table : Table) : Option Table :=
  match table.lookup name with
  | none => some (table ++ [(name, .list [.table []])])
  | some (.list items) => some (replaceValue table name (.list (items ++ [.table []])))
  | some _ => none

/-- Can a value no longer be extended once it is written? -/
def isClosedValue : Value → Bool
  | .list _ | .table _ => true
  | _ => false

/-- Is the key or a part of its path closed? -/
def isClosed (closed : List Key) (key : Key) : Bool := closed.any fun k => k.isPrefixOf key

/-- Add an entry to an inline table, where arrays of tables are closed from the start. -/
def addInline (table : Table) (closed : List Key) (key : Key) (value : Value) :
    Except Fault Table :=
  if isClosed closed key then .error .redefinition
  else
    match key.getLast? with
    | none => .error .invalidKey
    | some name =>
      match modifyAt false (addEntry name value) key.dropLast table with
      | some changed => .ok changed
      | none => .error .redefinition

/-! ### Values -/

/-- The share of the room that an array takes. -/
def arrayShare : Nat := 2

/-- The share of the room that an inline table takes. -/
def tableShare : Nat := 3

mutual

/-- A value. -/
def readValue (fuel room : Nat) (text : Text) : Except Fault (Value × Text) :=
  match fuel with
  | 0 => .error .invalidValue
  | fuel + 1 =>
    match text with
    | [] => .error .invalidValue
    | c :: rest =>
      if c == '\x22' || c == '\x27' then do
        let (body, after) ← readString text
        .ok (.text (String.ofList body), after)
      else if "true".toList.isPrefixOf text then .ok (.boolean true, text.drop 4)
      else if "false".toList.isPrefixOf text then .ok (.boolean false, text.drop 5)
      else if c == '[' then do
        if room < arrayShare then .error .tooDeep
        else
          match ← skipFiller rest.length rest with
          | ']' :: after => .ok (.list [], after)
          | inner => readItems fuel (room - arrayShare) [] inner
      else if c == '\x7b' then
        if room < tableShare then .error .tooDeep
        else
          match skipSpace rest with
          | '\x7d' :: after => .ok (.table [], after)
          | inner => readEntries fuel (room - tableShare) [] [] inner
      else
        match readMoment? text with
        | some parsed => parsed
        | none =>
          match readNumber? text, readSpecial? text with
          | some parsed, _ => parsed
          | none, some found => .ok found
          | none, none => .error .invalidValue

/-- The items of an array, up to its bracket. -/
def readItems (fuel room : Nat) (items : List Value) (text : Text) :
    Except Fault (Value × Text) :=
  match fuel with
  | 0 => .error .unclosedArray
  | fuel + 1 => do
    let (item, after) ← readValue fuel room text
    let items := items ++ [item]
    match ← skipFiller after.length after with
    | ']' :: rest => .ok (.list items, rest)
    | ',' :: rest =>
      match ← skipFiller rest.length rest with
      | ']' :: final => .ok (.list items, final)
      | more => readItems fuel room items more
    | _ => .error .unclosedArray

/-- The entries of an inline table, up to its brace. -/
def readEntries (fuel room : Nat) (table : Table) (closed : List Key) (text : Text) :
    Except Fault (Value × Text) :=
  match fuel with
  | 0 => .error .unclosedTable
  | fuel + 1 => do
    let (key, afterKey) ← readKey (text.length + 1) text
    match afterKey with
    | '=' :: rest => do
      let (value, after) ← readValue fuel room (skipSpace rest)
      let table ← addInline table closed key value
      match skipSpace after with
      | '\x7d' :: rest => .ok (.table table, rest)
      | ',' :: rest =>
        readEntries fuel room table (if isClosedValue value then key :: closed else closed)
          (skipSpace rest)
      | _ => .error .unclosedTable
    | _ => .error .missingEquals

end

end TagLens.Settings.Toml
