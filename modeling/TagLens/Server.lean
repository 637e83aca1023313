import TagLens.Settings.Load
import TagLens.Schema.Catalog
import TagLens.Workspace

/-!
# The server

A server wraps a workspace for one client. The client greets it with a root and options, and
then announces that it is ready; only then are the settings loaded, for that root and with the
client's options on top. Settings that cannot be used leave the ones in force. Every change of
a document publishes the full list of its diagnostics, and closing it publishes an empty one.

How the URI of a root is read is up to whoever runs the server: what needs the root takes the
reading of URIs along.
-/

namespace TagLens

open Diagnosis (Diagnostic)
open Document (Change)
open Location (Path UriReading)
open Report (Event)
open Settings (Host LoadError)

/-- The diagnostics of a document as they stand from now on. -/
structure Publication where
  uri : String
  diagnostics : List Diagnostic
  deriving DecidableEq, Repr

/-- A server for one client. -/
structure Server where
  workspace : Workspace
  /-- The options that the client gave last. -/
  options : Settings.Value
  /-- The root that the client gave last, once it has given any. -/
  clientRoot : Option (Option String)

namespace Server

/-- The name of the server. -/
def name : String := "rmc-xml-lsp"

/-- The version of the program. -/
def version : String := "0.3.0"

/-- The characters after which a client asks for suggestions. -/
def triggerCharacters : List String := ["<", "/", " ", "=", "\""]

/-- A server that no client has greeted. -/
def new (workingDirectory : Path) (settings : Settings) : Server :=
  { workspace := .new Schema.Catalog.schema workingDirectory settings none
    options := .table []
    clientRoot := none }

/-- Why a request to the server fails. -/
inductive Error where
  | load (error : LoadError)
  /-- No client has greeted the server. -/
  | notGreeted
  /-- The client's root is a URI that cannot be read. -/
  | malformedRoot (message : String)
  deriving Repr

/-- The error in words. -/
def Error.message : Error → String
  | .load error => error.message
  | .notGreeted => "The workspace is not available - has the server been initialized?"
  | .malformedRoot message => message

/-- The client greets the server with a root and options. Options that are no table are passed
over. -/
def greet (server : Server) (reading : UriReading) (rootUri : Option String)
    (options : Settings.Value) : Except Error Server :=
  match rootUri.map reading with
  | some (.error message) => .error (.malformedRoot message)
  | _ =>
    let options := match options with
      | .table entries => .table entries
      | _ => server.options
    .ok { server with options, clientRoot := some rootUri }

/-- Load the settings for the root, put the client's options on top, and put them in force. -/
def reload (server : Server) (reading : UriReading) (host : Host) : Except LoadError Server := do
  let loaded ← Settings.load host (server.workspace.rootPath reading)
  match server.options with
  | .table entries => do
    let settings ← loaded.overrideOrFail host.room.quotingOptions entries
      "initializationOptions"
    .ok { server with workspace := server.workspace.configure settings }
  | options => .error (.notTable options "items")

/-- The client is ready: move to its root and reload the settings. Refused settings are told
about and leave the ones in force; any other error stops the request after the move. -/
def ready (server : Server) (reading : UriReading) (host : Host) :
    Server × Except Error (List Event) :=
  match server.clientRoot with
  | none => (server, .error .notGreeted)
  | some rootUri =>
    let moved := { server with workspace := server.workspace.setRoot rootUri }
    let entered : Event := .rootEntered (moved.workspace.rootPath reading).render
    match moved.reload reading host with
    | .ok reloaded => (reloaded, .ok [entered])
    | .error (.refused problem) => (moved, .ok [.settingsKept problem.toFailure, entered])
    | .error error => (moved, .error (.load error))

/-! ### Documents -/

/-- A document is opened. -/
def didOpen (server : Server) (uri : String) (text : Text) (version : Int) :
    Server × List Publication × List Event :=
  let (workspace, diagnostics, events) := server.workspace.didOpen uri text version
  ({ server with workspace }, [⟨uri, diagnostics⟩], events)

/-- A document is edited; without edits nothing happens. -/
def didChange (server : Server) (uri : String) (version : Int) (changes : List Change) :
    Server × List Publication × List Event :=
  if changes.isEmpty then (server, [], [])
  else
    let (workspace, diagnostics, events) := server.workspace.didChange uri version changes
    ({ server with workspace }, [⟨uri, diagnostics⟩], events)

/-- A document is closed. -/
def didClose (server : Server) (uri : String) : Server × List Publication × List Event :=
  let (workspace, events) := server.workspace.close uri
  ({ server with workspace }, [⟨uri, []⟩], events)

end Server
end TagLens
