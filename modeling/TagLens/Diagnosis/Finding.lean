import TagLens.Text.Basic
import TagLens.Document.Position

/-!
# Findings

A finding is a problem of a document together with the range it concerns. The problem decides
everything else about it: its wording, its code, how severe it is, and which family of checks
it belongs to.
-/

namespace TagLens.Diagnosis

open Document (Range)

/-- How severe a finding is. -/
inductive Severity where
  | error
  | warning
  | information
  | hint
  deriving DecidableEq, Repr

/-- What a severity is called. -/
def Severity.label : Severity → String
  | .error => "Error"
  | .warning => "Warning"
  | .information => "Information"
  | .hint => "Hint"

/-- The families of checks. -/
inductive Family where
  | schemaViolation
  | structuralImbalance
  | internal
  deriving DecidableEq, Repr

/-- What can be wrong with a document. -/
inductive Problem where
  /-- The root element stands nowhere in the document. -/
  | missingRoot (root : Text)
  | unknownElement (name : Text)
  /-- An element stands on a line that does not assign an attribute it requires. -/
  | missingAttribute (element attr : Text)
  /-- A value outside the values the attribute may take. -/
  | outsideDomain (attr value : Text) (domain : List Text)
  | notIdentifier (attr : Text)
  | notBoolean (attr value : Text)
  /-- A closing tag for which no element of its name is open. -/
  | unmatchedClosing (name : Text)
  | unclosed (name : Text)
  | missingDeclaration
  /-- The checks could not be carried out. -/
  | internal (reason : String)
  deriving DecidableEq, Repr

namespace Problem

/-- The problem in words. -/
def message : Problem → String
  | .missingRoot root => "Root element must be \"" ++ String.ofList root ++ "\""
  | .unknownElement name => "Unknown element: " ++ String.ofList name
  | .missingAttribute element attr =>
    String.ofList element ++ " element requires " ++ String.ofList attr ++ " attribute"
  | .outsideDomain attr value domain =>
    "Invalid value \"" ++ String.ofList value ++ "\" for attribute " ++ String.ofList attr
      ++ ". Valid values: " ++ ", ".intercalate (domain.map String.ofList)
  | .notIdentifier attr =>
    "Invalid " ++ String.ofList attr
      ++ " format. Must match pattern: [a-zA-Z_][a-zA-Z0-9_]*"
  | .notBoolean attr value =>
    "Invalid boolean value \"" ++ String.ofList value ++ "\" for attribute "
      ++ String.ofList attr ++ ". Must be \"true\" or \"false\""
  | .unmatchedClosing name =>
    "Closing tag </" ++ String.ofList name ++ "> has no matching opening tag"
  | .unclosed name => "Unclosed tag: " ++ String.ofList name
  | .missingDeclaration => "XML document should start with XML declaration"
  | .internal reason => "XML validation error: " ++ reason

/-- The code under which a problem is filed. -/
def code : Problem → String
  | .missingRoot _ => "missing-root"
  | .unknownElement _ => "unknown-element"
  | .missingAttribute _ _ => "missing-required-attribute"
  | .outsideDomain _ _ _ => "invalid-enum-value"
  | .notIdentifier _ => "invalid-identifier"
  | .notBoolean _ _ => "invalid-boolean"
  | .unmatchedClosing _ => "unmatched-closing-tag"
  | .unclosed _ => "unclosed-tag"
  | .missingDeclaration => "missing-xml-declaration"
  | .internal _ => "internal-error"

/-- A missing declaration is only a warning. -/
def severity : Problem → Severity
  | .missingDeclaration => .warning
  | _ => .error

/-- The family of checks that finds the problem. -/
def family : Problem → Family
  | .unmatchedClosing _ | .unclosed _ | .missingDeclaration => .structuralImbalance
  | .internal _ => .internal
  | _ => .schemaViolation

end Problem

/-- A problem and the range it concerns. -/
structure Finding where
  range : Range
  problem : Problem
  deriving DecidableEq, Repr

/-- A finding as it is shown to a client. -/
structure Diagnostic where
  range : Range
  message : String
  severity : Severity
  code : String
  source : String
  deriving DecidableEq, Repr

/-- Sign a finding with the name of its source. -/
def Finding.toDiagnostic (source : String) (finding : Finding) : Diagnostic :=
  { range := finding.range
    message := finding.problem.message
    severity := finding.problem.severity
    code := finding.problem.code
    source }

end TagLens.Diagnosis
