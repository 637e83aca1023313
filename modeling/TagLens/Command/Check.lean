import TagLens.Command.Fault
import TagLens.Report.Log
import TagLens.Location.Uri
import TagLens.Settings.Load
import TagLens.Text.Lines
import TagLens.Workspace

/-!
# Checking files

Files are checked one after the other: a file is read as text, opened in the workspace,
validated, and closed again. What happens goes to the log at once, so the log file itself can
be checked. The first file that cannot be read ends the check.
-/

namespace TagLens.Command

open Diagnosis (Finding Severity)
open Document (Position)
open Location (FileTree Path)
open Report (Event Log)
open Settings (Host)

/-- A finding on a line of its own: where it is, counted from one, how severe it is, what it
says, and its code. -/
def findingLine (path : String) (start : Position) (severity : Severity) (message : String)
    (code : Option String) : String :=
  let suffix := match code with
    | none | some "" => ""
    | some code => " [" ++ code ++ "]"
  path ++ ":" ++ toString (start.line + 1) ++ ":" ++ toString (start.character + 1) ++ ": "
    ++ Text.lowerString severity.label ++ ": " ++ message ++ suffix

/-- The line of a finding in a file. -/
def lineOf (path : String) (finding : Finding) : String :=
  findingLine path finding.range.start finding.problem.severity finding.problem.message
    (some finding.problem.code)

/-- The fault of a file that cannot be read. -/
def unreadable (path : Path) (reason : String) : Fault :=
  .command
    { kind := .runtime
      message := "Cannot read " ++ path.render ++ ": " ++ reason
      hint := some "Check the path and file encoding" }

/-- The text of a file: UTF-8 with line ends of any kind. -/
def readText (host : Host) (path : Path) : Except Fault Text :=
  match host.files.read host.workingDirectory path with
  | .error error =>
    .error <|
      match error.cause with
      | .nullInPath => .system (.value error.message)
      | _ => unreadable path error.message
  | .ok bytes =>
    match Text.Utf8.decode bytes with
    | .error fault => .error (unreadable path fault.message)
    | .ok text => .ok (Text.universalNewlines text)

/-- Check one file: its findings, what happened, and the workspace as it was. -/
def checkFile (host : Host) (workspace : Workspace) (argument : String) :
    Except Fault (Workspace × List Finding × List Event) := do
  let path := Path.ofString argument
  let text ← readText host path
  let uri := Location.Uri.ofPath (Path.resolve host.workingDirectory path)
  let (opened, findings, events) := workspace.openDocument uri text 1
  let (closed, closing) := opened.close uri
  .ok (closed, findings, events ++ closing)

/-- The outcome of checking files. -/
structure CheckReport where
  /-- The lines of the findings. -/
  lines : List String := []
  /-- The log records. -/
  records : String := ""
  /-- Some finding is an error. -/
  failed : Bool := false
  /-- What ended the check early. -/
  fault : Option Fault := none
  workspace : Workspace
  /-- The files afterwards. -/
  files : FileTree

/-- The report of a file, in front of that of the files behind it; a file that cannot be read ends
the check. -/
def CheckReport.ofFile (log : Log) (host : Host) (workspace : Workspace) (argument : String)
    (checked : Except Fault (Workspace × List Finding × List Event))
    (rest : Host → Workspace → CheckReport) : CheckReport :=
  match checked with
  | .error fault => { fault := some fault, workspace, files := host.files }
  | .ok (closed, findings, events) =>
    let records := log.records events
    let more := rest { host with files := log.write records host.files } closed
    { more with
      lines := findings.map (lineOf argument) ++ more.lines
      records := records ++ more.records
      failed := findings.any (fun finding => finding.problem.severity = .error) || more.failed }

/-- Check files in order, up to the first that cannot be read. -/
def checkFiles (log : Log) (host : Host) (workspace : Workspace) : List String → CheckReport
  | [] => { workspace, files := host.files }
  | argument :: rest =>
    .ofFile log host workspace argument (checkFile host workspace argument) fun host workspace =>
      checkFiles log host workspace rest

end TagLens.Command
