import TagLens.Report.Failure

/-!
# Events worth a log record

What happens in a workspace is told as a list of events. An event decides the level of its log
record, the component that writes it, and its wording.
-/

namespace TagLens.Report

/-- The levels of log records, from the least to the most urgent. -/
inductive Level where
  | debug
  | info
  | warning
  | error
  deriving DecidableEq, Repr

namespace Level

/-- What a level is called. -/
def label : Level → String
  | .debug => "DEBUG"
  | .info => "INFO"
  | .warning => "WARNING"
  | .error => "ERROR"

/-- The rank of a level. -/
def rank : Level → Nat
  | .debug => 10
  | .info => 20
  | .warning => 30
  | .error => 40

end Level

/-- Something worth a log record. -/
inductive Event where
  | opened (uri : String) (version : Int)
  | closed (uri : String)
  /-- A batch of edits came too late. -/
  | staleEdit (uri : String) (version current : Int)
  /-- A batch of edits was meant for a document that is not open. -/
  | droppedEdit (uri : String)
  /-- The checks could not be carried out. -/
  | validationFailed (uri : String)
  /-- New settings could not be used. -/
  | settingsKept (failure : Failure)
  | rootEntered (path : String)
  deriving DecidableEq, Repr

namespace Event

/-- How urgent the event is. -/
def level : Event → Level
  | .opened _ _ | .closed _ => .debug
  | .rootEntered _ => .info
  | .staleEdit _ _ _ | .droppedEdit _ => .warning
  | .validationFailed _ | .settingsKept _ => .error

/-- The component that writes the record. -/
def source : Event → String
  | .staleEdit _ _ _ => "rmcxml.lsp.state"
  | .settingsKept _ | .rootEntered _ => "rmcxml.lsp.server"
  | .opened _ _ | .closed _ | .droppedEdit _ | .validationFailed _ => "rmcxml.lsp.workspace"

/-- The event in words. -/
def message : Event → String
  | .opened uri version => "Opened " ++ uri ++ " at version " ++ toString version
  | .closed uri => "Closed " ++ uri
  | .staleEdit uri version current =>
    "Ignoring stale edit for " ++ uri ++ " (version " ++ toString version ++ ", current "
      ++ toString current ++ ")"
  | .droppedEdit uri => "Dropping edit for " ++ uri ++ ": document is not open"
  | .validationFailed uri => "Validation failed for " ++ uri
  | .settingsKept failure => "Keeping previous settings: " ++ failure.format
  | .rootEntered path => "RMC XML workspace initialised at " ++ path

end Event
end TagLens.Report
