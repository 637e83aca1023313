import TagLens.Text.Blank
import TagLens.Markup.Name

/-!
# Attributes

Readers for the ways in which attributes show in raw text:

* `readAssignment`: a name, blank space, and an equals sign;
* `readSlot`: the same with more blank space and a complete quoted value, if there is one;
* `readValue`: a name, an equals sign and a nonempty quoted value with nothing in between;
* `readOpenValue`: a name, an equals sign and a quoted value that runs to the end of the text.

`unquoted` removes the complete quoted values of a text from left to right.
-/

namespace TagLens.Markup

open Text (Occurrence Reader occurrences isBlank isQuote)

/-- The blank characters at the head of a text. -/
def blanksAt (text : Text) : Text := text.takeWhile isBlank

/-- Read a name, blank space and an equals sign. -/
def readAssignment : Reader Text := fun text =>
  match nameAt? text with
  | none => none
  | some name =>
    let blanks := blanksAt (text.drop name.length)
    match text.drop (name.length + blanks.length) with
    | '=' :: _ => some (name, name.length + blanks.length + 1)
    | _ => none

/-- The length of the complete quoted value at the head of a text, delimiters included. -/
def quotedLength? : Text → Option Nat
  | [] => none
  | quote :: rest =>
    if isQuote quote && List.elem quote rest then
      some ((rest.takeWhile (· != quote)).length + 2)
    else none

/-- Read an assignment, the blank space after it and, if there is one, a complete quoted
value. -/
def readSlot : Reader Text := fun text =>
  match readAssignment text with
  | none => none
  | some (name, n) =>
    let blanks := (blanksAt (text.drop n)).length
    some (name, n + blanks + (quotedLength? (text.drop (n + blanks))).getD 0)

/-- Read a name, an equals sign and a complete nonempty quoted value, written without space. -/
def readValue : Reader (Text × Text) := fun text =>
  match nameAt? text with
  | none => none
  | some name =>
    match text.drop name.length with
    | '=' :: quote :: rest =>
      let value := rest.takeWhile (· != quote)
      if isQuote quote && List.elem quote rest && !value.isEmpty then
        some ((name, value), name.length + value.length + 3)
      else none
    | _ => none

/-- Read an assignment whose quoted value is not closed before the end of the text. -/
def readOpenValue : Reader Text := fun text =>
  match readAssignment text with
  | none => none
  | some (name, n) =>
    match (text.drop n).dropWhile isBlank with
    | quote :: rest =>
      if isQuote quote && !List.elem quote rest then some (name, text.length) else none
    | [] => none

/-- The text without its complete quoted values. A quote that is never closed stays. -/
def unquoted (text : Text) : Text :=
  match text with
  | [] => []
  | c :: rest =>
    if isQuote c && List.elem c rest then unquoted ((rest.dropWhile (· != c)).drop 1)
    else c :: unquoted rest
termination_by text.length
decreasing_by
  · have := Text.length_dropWhile_le (· != c) rest
    simp only [List.length_drop, List.length_cons]
    omega
  · simp

/-- The attribute names assigned in a tag, in order of first appearance. What stands inside a
complete quoted value does not count. -/
def assignedNames (tag : Text) : List Text :=
  ((occurrences readAssignment 0 (unquoted tag)).map (·.value)).eraseDups

end TagLens.Markup
