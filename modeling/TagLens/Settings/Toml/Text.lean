import TagLens.Text.Digit
import TagLens.Settings.Toml.Basic

/-!
# Configuration files: strings and keys

Strings come in four kinds: with escapes or literal, on one line or on several. A key is a
list of parts with dots between them, and a part is bare or a string on one line.
-/

namespace TagLens.Settings.Toml

open Text (hexValue?)

/-! ### Strings -/

/-- The character that a one-letter escape stands for. -/
def escape? (c : Char) : Option Char :=
  if c == 'b' then some '\x08'
  else if c == 't' then some '\t'
  else if c == 'n' then some '\n'
  else if c == 'f' then some '\x0c'
  else if c == 'r' then some '\r'
  else if c == '\x22' then some '\x22'
  else if c == '\\' then some '\\'
  else none

/-- The character whose code point the first `width` hexadecimal digits give. -/
def hexChar? (width : Nat) (text : Text) : Option Char :=
  let digits := text.take width
  if digits.length == width then
    match digits.mapM hexValue? with
    | some values =>
      let n := values.foldl (fun n d => 16 * n + d) 0
      if n ≤ 0xd7ff || (0xe000 ≤ n && n ≤ 0x10ffff) then some (Char.ofNat n) else none
    | none => none
  else none

/-- What a backslash and the text after it stand for, and how many characters after the
backslash they take. In a string of several lines a backslash at the end of a line drops the
line end and all space that follows. -/
def readEscape (multiline : Bool) (text : Text) : Except Fault (Text × Nat) :=
  match text with
  | [] => .error .invalidString
  | c :: rest =>
    if multiline && isSpaceOrNewline c then
      let spaces := text.takeWhile isSpace
      let after := text.drop spaces.length
      match after with
      | [] => .ok ([], text.length)
      | d :: _ =>
        if d == '\n' then
          .ok ([], spaces.length + (after.takeWhile isSpaceOrNewline).length)
        else .error .invalidString
    else if c == 'u' then
      match hexChar? 4 rest with
      | some d => .ok ([d], 5)
      | none => .error .invalidString
    else if c == 'U' then
      match hexChar? 8 rest with
      | some d => .ok ([d], 9)
      | none => .error .invalidString
    else
      match escape? c with
      | some d => .ok ([d], 1)
      | none => .error .invalidString

/-- The rest of a string with escapes, after its opening quotation marks. -/
def basicString (multiline : Bool) (text : Text) : Except Fault (Text × Text) :=
  match text with
  | [] => .error .invalidString
  | c :: rest =>
    if c == '\x22' then
      if !multiline then .ok ([], rest)
      else if ['\x22', '\x22'].isPrefixOf rest then .ok ([], rest.drop 2)
      else do
        let (tail, after) ← basicString multiline rest
        .ok (c :: tail, after)
    else if c == '\\' then
      match readEscape multiline rest with
      | .error fault => .error fault
      | .ok (piece, n) => do
        let (tail, after) ← basicString multiline (rest.drop n)
        .ok (piece ++ tail, after)
    else if isControl c && !(multiline && c == '\n') then .error .invalidCharacter
    else do
      let (tail, after) ← basicString multiline rest
      .ok (c :: tail, after)
termination_by text.length
decreasing_by
  · simp
  · simp only [List.length_drop, List.length_cons]; omega
  · simp

/-- The rest of a string without escapes, after its opening apostrophe. -/
def literalString (text : Text) : Except Fault (Text × Text) :=
  let body := text.takeWhile (· != '\x27')
  match text.dropWhile (· != '\x27') with
  | _ :: after => if body.any isControl then .error .invalidCharacter else .ok (body, after)
  | [] => .error .invalidString

/-- The rest of a string of several lines without escapes. -/
def literalLines : Text → Except Fault (Text × Text)
  | [] => .error .invalidString
  | '\x27' :: '\x27' :: '\x27' :: after => .ok ([], after)
  | c :: rest =>
    if isControl c && c != '\n' then .error .invalidCharacter
    else do
      let (tail, after) ← literalLines rest
      .ok (c :: tail, after)

/-- Up to two quotation marks right behind the closing ones belong to the string. -/
def extraQuotes (quote : Char) (body after : Text) : Text × Text :=
  let extra := min (after.takeWhile (· == quote)).length 2
  (body ++ List.replicate extra quote, after.drop extra)

/-- Drop a line feed right behind the opening quotation marks. -/
def dropNewline : Text → Text
  | '\n' :: rest => rest
  | text => text

/-- A string of any kind; the text begins with its quotation mark. -/
def readString (text : Text) : Except Fault (Text × Text) :=
  match text with
  | '\x22' :: '\x22' :: '\x22' :: rest => do
    let (body, after) ← basicString true (dropNewline rest)
    .ok (extraQuotes '\x22' body after)
  | '\x22' :: rest => basicString false rest
  | '\x27' :: '\x27' :: '\x27' :: rest => do
    let (body, after) ← literalLines (dropNewline rest)
    .ok (extraQuotes '\x27' body after)
  | '\x27' :: rest => literalString rest
  | _ => .error .invalidString

/-! ### Keys -/

/-- A path of names. -/
abbrev Key := List String

/-- One part of a key. -/
def readKeyPart (text : Text) : Except Fault (String × Text) :=
  match text with
  | [] => .error .invalidKey
  | c :: rest =>
    if isBareKeyChar c then
      .ok (String.ofList (text.takeWhile isBareKeyChar), text.dropWhile isBareKeyChar)
    else if c == '\x27' then do
      let (part, after) ← literalString rest
      .ok (String.ofList part, after)
    else if c == '\x22' then do
      let (part, after) ← basicString false rest
      .ok (String.ofList part, after)
    else .error .invalidKey

/-- A key with its dots, and the space behind it. -/
def readKey (fuel : Nat) (text : Text) : Except Fault (Key × Text) :=
  match fuel with
  | 0 => .error .invalidKey
  | fuel + 1 => do
    let (part, after) ← readKeyPart text
    match skipSpace after with
    | '.' :: rest => do
      let (more, final) ← readKey fuel (skipSpace rest)
      .ok (part :: more, final)
    | rest => .ok ([part], rest)

end TagLens.Settings.Toml
