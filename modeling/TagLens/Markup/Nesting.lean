import TagLens.Markup.Tag

/-!
# Open elements

The scan of a document keeps the elements that are still open. An opening tag adds one. A
closing tag removes the innermost open element *of its name*, which need not be the innermost
element of all; a closing tag for which no element of its name is open is set aside as
unmatched and changes nothing. A self-closing tag that is not also a closing one leaves no
trace.

Malformed and half-typed documents therefore still give a useful list of open elements.
-/

namespace TagLens.Markup

/-- The name under which the document itself stands where a parent element is asked for: the
parent of the top-level elements. -/
def documentRoot : Text := ['R', 'O', 'O', 'T']

/-- An open element: its name and the offset of its opening tag. -/
structure Frame where
  name : Text
  offset : Nat
  deriving DecidableEq, Repr

/-- The state of a scan: the open elements, innermost first, and the closing tags that
closed nothing, in text order. -/
structure Nesting where
  frames : List Frame
  unmatched : List Token
  deriving DecidableEq, Repr

namespace Nesting

/-- Nothing scanned yet. -/
def empty : Nesting := ⟨[], []⟩

/-- Take one more tag into account. -/
def step (state : Nesting) (token : Token) : Nesting :=
  let named (frame : Frame) : Bool := frame.name == token.value.name
  if token.value.closing then
    if state.frames.any named then { state with frames := state.frames.eraseP named }
    else { state with unmatched := state.unmatched ++ [token] }
  else if token.value.selfClosing then state
  else { state with frames := ⟨token.value.name, token.start⟩ :: state.frames }

/-- The open elements, outermost first. -/
def stack (state : Nesting) : List Frame := state.frames.reverse

/-- The names of the open elements, outermost first. -/
def names (state : Nesting) : List Text := state.stack.map (·.name)

/-- The name of the innermost open element. -/
def top? (state : Nesting) : Option Text := state.frames.head?.map (·.name)

end Nesting

/-- The outcome of scanning a whole text. -/
def nesting (text : Text) : Nesting := (tokens text).foldl Nesting.step Nesting.empty

/-- The names of the elements open at the end of a text, outermost first. -/
def openElements (text : Text) : List Text := (nesting text).names

end TagLens.Markup
