import TagLens.Settings.Toml.Value

/-!
# Configuration files: documents

Configuration files hold a table of values in the TOML format: key and value pairs, table
headers, arrays of tables, dotted and quoted keys, strings of four kinds, numbers, truth
values, dates and times, arrays and inline tables.

A document is read statement by statement into a `Draft`, which holds the table built so far
and what may no longer be done to it: a table that a header has opened cannot be opened by a
second header, a table that dotted keys have built cannot be opened by a header later on, and
a value written as an array or an inline table cannot be extended from outside.
-/

namespace TagLens.Settings.Toml

/-- A document read so far. -/
structure Draft where
  table : Table := []
  /-- The table that key and value pairs go to. -/
  header : Key := []
  /-- Tables that no further header may open. -/
  opened : List Key := []
  /-- Tables that dotted keys have built since the last header. -/
  pending : List Key := []
  /-- Values that cannot be extended. -/
  closed : List Key := []

namespace Draft

/-- What the dotted keys have built is settled when a header comes. -/
def settle (draft : Draft) : Draft :=
  { draft with opened := draft.opened ++ draft.pending, pending := [] }

/-- The header of a table. -/
def openTable (draft : Draft) (key : Key) : Except Fault Draft :=
  if draft.opened.elem key || isClosed draft.closed key then .error .redefinition
  else
    match modifyAt true some key draft.table with
    | some table => .ok { draft with table, header := key, opened := key :: draft.opened }
    | none => .error .redefinition

/-- The header of a table in an array of tables. What was settled below the key is free again
for the new table. -/
def openListTable (draft : Draft) (key : Key) : Except Fault Draft :=
  if isClosed draft.closed key then .error .redefinition
  else
    match key.getLast? with
    | none => .error .invalidKey
    | some name =>
      let free (k : Key) : Bool := !key.isPrefixOf k
      match modifyAt true (addToList name) key.dropLast draft.table with
      | some table =>
        .ok
          { draft with
            table
            header := key
            opened := key :: draft.opened.filter free
            closed := draft.closed.filter free }
      | none => .error .redefinition

/-- The tables that the dots of a key lead through. -/
def innerKeys (header key : Key) : List Key :=
  (List.range (key.length - 1)).map fun n => header ++ key.take (n + 1)

/-- A key and value pair. -/
def addPair (draft : Draft) (key : Key) (value : Value) : Except Fault Draft :=
  let inner := innerKeys draft.header key
  let full := draft.header ++ key
  if inner.any draft.opened.elem || isClosed draft.closed full.dropLast then .error .redefinition
  else
    match key.getLast? with
    | none => .error .invalidKey
    | some name =>
      match modifyAt true (addEntry name value) full.dropLast draft.table with
      | some table =>
        .ok
          { draft with
            table
            pending := inner ++ draft.pending
            closed := if isClosedValue value then full :: draft.closed else draft.closed }
      | none => .error .redefinition

end Draft

/-- One statement, up to the end of its line. -/
def readStatement (room : Nat) (draft : Draft) (text : Text) : Except Fault (Draft × Text) :=
  match text with
  | [] => .ok (draft, [])
  | '\n' :: _ => .ok (draft, text)
  | '#' :: _ => .ok (draft, text)
  | '[' :: '[' :: rest => do
    let (key, after) ← readKey (rest.length + 1) (skipSpace rest)
    let draft ← draft.settle.openListTable key
    match after with
    | ']' :: ']' :: final => .ok (draft, final)
    | _ => .error .unclosedHeader
  | '[' :: rest => do
    let (key, after) ← readKey (rest.length + 1) (skipSpace rest)
    let draft ← draft.settle.openTable key
    match after with
    | ']' :: final => .ok (draft, final)
    | _ => .error .unclosedHeader
  | c :: _ =>
    if isBareKeyChar c || c == '\x22' || c == '\x27' then do
      let (key, afterKey) ← readKey (text.length + 1) text
      match afterKey with
      | '=' :: rest => do
        let (value, after) ← readValue (2 * text.length + 2) room (skipSpace rest)
        .ok (← draft.addPair key value, after)
      | _ => .error .missingEquals
    else .error .invalidStatement

/-- All statements of a document. -/
def readStatements (fuel room : Nat) (draft : Draft) (text : Text) : Except Fault Draft :=
  match fuel with
  | 0 => .ok draft
  | fuel + 1 => do
    let (draft, after) ← readStatement room draft (skipSpace text)
    match ← skipComment (skipSpace after) with
    | [] => .ok draft
    | '\n' :: rest => readStatements fuel room draft rest
    | _ => .error .trailingText

/-- A carriage return in front of a line feed is dropped. -/
def joinLineEnds : Text → Text
  | [] => []
  | '\r' :: '\n' :: rest => '\n' :: joinLineEnds rest
  | c :: rest => c :: joinLineEnds rest

/-- Read a document, with this much room for nested values. -/
def parse (room : Nat) (text : Text) : Except Fault Table := do
  let text := joinLineEnds text
  let draft ← readStatements (text.length + 1) room {} text
  .ok draft.table

end TagLens.Settings.Toml
