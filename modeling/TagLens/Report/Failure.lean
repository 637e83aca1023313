/-!
# Failures outside documents

What is wrong *in* a document is a finding. A failure is everything else: inconsistent schema
tables, a request for a document that is not open, settings that cannot be used. It carries a
message, a code by which callers can tell failures apart, and perhaps a hint and a place.
-/

namespace TagLens.Report

/-- Where a failure points to. The resource may be a file. -/
structure Place where
  uri : Option String := none
  line : Option Int := none
  column : Option Int := none
  deriving DecidableEq, Repr

namespace Place

/-- A place is known when its resource is. -/
def isKnown (place : Place) : Bool := place.uri.isSome

/-- The resource, then the line, then the column, as far as they are known. A column is only
told after a line. -/
def render (place : Place) : String :=
  let resource := match place.uri with
    | none | some "" => "<unknown>"
    | some uri => uri
  match place.line, place.column with
  | none, _ => resource
  | some line, none => resource ++ ":" ++ toString line
  | some line, some column => resource ++ ":" ++ toString line ++ ":" ++ toString column

end Place

/-- The kinds of failures. -/
inductive FailureKind where
  | general
  | schema
  | documentNotOpen
  | settings
  deriving DecidableEq, Repr

/-- The code of a failure that is given no other. -/
def FailureKind.code : FailureKind → String
  | .general => "rmc-error"
  | .schema => "schema-error"
  | .documentNotOpen => "document-not-open"
  | .settings => "config-error"

/-- A failure outside documents. -/
structure Failure where
  kind : FailureKind
  message : String
  place : Place := {}
  code : String := kind.code
  hint : Option String := none
  deriving DecidableEq, Repr

/-- The failure on one line: place, code, message and hint, as far as there are any. -/
def Failure.format (failure : Failure) : String :=
  let place := if failure.place.isKnown then failure.place.render ++ ": " else ""
  let hint := match failure.hint with
    | none | some "" => ""
    | some hint => " (hint: " ++ hint ++ ")"
  place ++ "[" ++ failure.code ++ "] " ++ failure.message ++ hint

end TagLens.Report
