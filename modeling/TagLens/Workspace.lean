import TagLens.Assist.Completion
import TagLens.Assist.Hover
import TagLens.Diagnosis.Validator
import TagLens.Document.Buffer
import TagLens.Location.Path
import TagLens.Report.Event
import TagLens.Settings.Basic

/-!
# Workspaces

A workspace holds the open documents, in the order in which they were opened, together with
the schema, the settings in force and a root directory. Every request is answered from the
current text of its document; nothing is remembered between requests.

Operations that change a workspace, or that have something to tell, give the new workspace and
the events together with their answer.
-/

namespace TagLens

open Assist (Item Hover)
open Diagnosis (Diagnostic Finding Problem Validator)
open Document (Buffer Change OutOfBounds Position)
open Location (Path UriReading)
open Report (Event Failure)

/-- A validator in service, or the reason why validation cannot run. -/
inductive Inspection where
  | service (validator : Validator)
  | outOfService (reason : String)

/-- The open documents and what is needed to answer requests about them. -/
structure Workspace where
  schema : Schema
  /-- The directory for documents without a root. -/
  workingDirectory : Path
  settings : Settings
  inspection : Inspection
  rootUri : Option String
  /-- The open documents by URI, in opening order. -/
  documents : List (String × Buffer)

namespace Workspace

/-- The validator that settings ask for. -/
def validatorFor (schema : Schema) (settings : Settings) : Validator :=
  { schema
    checkStructure := settings.checkStructure
    requireDeclaration := settings.requireDeclaration }

/-- A workspace without documents. -/
def new (schema : Schema) (workingDirectory : Path) (settings : Settings)
    (rootUri : Option String) : Workspace :=
  { schema, workingDirectory, settings, rootUri
    inspection := .service (validatorFor schema settings)
    documents := [] }

/-- The root directory, with URIs read in the given way; without a root it is the working
directory. -/
def rootPath (workspace : Workspace) (reading : UriReading) : Path :=
  match workspace.rootUri with
  | none | some "" => workspace.workingDirectory
  | some uri => .ofUri reading uri

/-- Move the root. -/
def setRoot (workspace : Workspace) (rootUri : Option String) : Workspace :=
  { workspace with rootUri }

/-- Put settings in force. -/
def configure (workspace : Workspace) (settings : Settings) : Workspace :=
  { workspace with
    settings
    inspection := .service (validatorFor workspace.schema settings) }

/-! ### Documents -/

/-- An open document. -/
def document? (workspace : Workspace) (uri : String) : Option Buffer :=
  workspace.documents.lookup uri

/-- An open document, or the failure to tell about. -/
def require (workspace : Workspace) (uri : String) : Except Failure Buffer :=
  match workspace.document? uri with
  | some buffer => .ok buffer
  | none =>
    .error
      { kind := .documentNotOpen
        message := "No open document for " ++ uri
        place := { uri := some uri } }

/-- The URIs of the open documents, in opening order. -/
def openUris (workspace : Workspace) : List String := workspace.documents.map (·.1)

/-- Put a buffer under its URI; a document that is already open keeps its place. -/
def putBuffer (uri : String) (buffer : Buffer) : List (String × Buffer) → List (String × Buffer)
  | [] => [(uri, buffer)]
  | entry :: rest =>
    if entry.1 == uri then (uri, buffer) :: rest else entry :: putBuffer uri buffer rest

/-- What is put under a URI is found there, and nothing else is found elsewhere than before. -/
theorem lookup_putBuffer (uri other : String) (buffer : Buffer)
    (documents : List (String × Buffer)) :
    (putBuffer uri buffer documents).lookup other
      = if other = uri then some buffer else documents.lookup other := by
  induction documents with
  | nil =>
    by_cases h : other = uri
    · simp [putBuffer, h]
    · simp [putBuffer, List.lookup_cons, beq_false_of_ne h, h]
  | cons entry rest ih =>
    obtain ⟨key, held⟩ := entry
    rw [putBuffer]
    split
    · next hkey =>
      obtain rfl : key = uri := by simpa using hkey
      by_cases h : other = key
      · simp [h]
      · simp [List.lookup_cons, beq_false_of_ne h, h]
    · next hkey =>
      have hne : key ≠ uri := by simpa using hkey
      by_cases h : other = key
      · subst h
        simp [hne]
      · simp [List.lookup_cons, beq_false_of_ne h, ih]

/-- The findings of a text: those of the validator in force, or one that tells why there are
no others. -/
def inspect (workspace : Workspace) (text : Text) : Except String (List Finding) :=
  match workspace.inspection with
  | .service validator => (validator.validate text).mapError (·.message)
  | .outOfService reason => .error reason

/-- The findings of a document, and what went wrong in getting them. A document that is not
open has none. -/
def validate (workspace : Workspace) (uri : String) : List Finding × List Event :=
  match workspace.document? uri with
  | none => ([], [])
  | some buffer =>
    match workspace.inspect buffer.text with
    | .ok findings => (findings, [])
    | .error reason =>
      ([⟨Diagnosis.documentStart, .internal reason⟩], [.validationFailed uri])

/-- Open a document, or open it anew, and validate it. -/
def openDocument (workspace : Workspace) (uri : String) (text : Text) (version : Int) :
    Workspace × List Finding × List Event :=
  let opened :=
    { workspace with documents := putBuffer uri (.new uri text version) workspace.documents }
  let (findings, events) := opened.validate uri
  (opened, findings, .opened uri version :: events)

/-- Apply a batch of edits to an open document and validate it. -/
def edit (workspace : Workspace) (uri : String) (changes : List Change) (version : Int) :
    Workspace × List Finding × List Event :=
  match workspace.document? uri with
  | none => (workspace, [], [.droppedEdit uri])
  | some buffer =>
    let (accepted, revised) := buffer.edit changes version
    let stale :=
      if accepted then [] else [Event.staleEdit buffer.uri version buffer.version]
    let edited := { workspace with documents := putBuffer uri revised workspace.documents }
    let (findings, events) := edited.validate uri
    (edited, findings, stale ++ events)

/-- Close a document. -/
def close (workspace : Workspace) (uri : String) : Workspace × List Event :=
  ({ workspace with documents := workspace.documents.filter (·.1 != uri) },
    if (workspace.document? uri).isSome then [.closed uri] else [])

/-! ### Requests -/

/-- The suggestions at a position. -/
def complete (workspace : Workspace) (uri : String) (position : Position) : List Item :=
  match workspace.document? uri with
  | none => []
  | some buffer => Assist.complete workspace.schema (buffer.textBefore position)

/-- The documentation at a position. -/
def hover (workspace : Workspace) (uri : String) (position : Position) :
    Except OutOfBounds (Option Hover) :=
  match workspace.document? uri with
  | none => .ok none
  | some buffer =>
    Assist.hover workspace.schema (buffer.lineAt position.line) position.line position.character

/-! ### Findings for a client -/

/-- Findings as they are published. -/
def publish (workspace : Workspace) (findings : List Finding) : List Diagnostic :=
  findings.map (Finding.toDiagnostic workspace.settings.diagnosticSource)

/-- The diagnostics of a document as it stands. -/
def diagnostics (workspace : Workspace) (uri : String) : List Diagnostic × List Event :=
  let (findings, events) := workspace.validate uri
  (workspace.publish findings, events)

/-- Open a document, or open it anew, for a client. -/
def didOpen (workspace : Workspace) (uri : String) (text : Text) (version : Int) :
    Workspace × List Diagnostic × List Event :=
  let (opened, findings, events) := workspace.openDocument uri text version
  (opened, opened.publish findings, events)

/-- Apply a client's batch of edits. -/
def didChange (workspace : Workspace) (uri : String) (version : Int) (changes : List Change) :
    Workspace × List Diagnostic × List Event :=
  let (edited, findings, events) := workspace.edit uri changes version
  (edited, edited.publish findings, events)

end Workspace
end TagLens
