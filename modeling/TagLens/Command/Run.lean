import TagLens.Command.Check
import TagLens.Command.Interface
import TagLens.Server

/-!
# Running the program

A run is a function of its surroundings: the command line, the files, the environment, and how
the transport of a server ends. Its outcome is what a caller can see: the exit code or the
fault that passes through, the text on the two output streams, the files afterwards, how the
log was set up, and which transports were started.
-/

namespace TagLens.Command

open Location (AccessError FileTree Path)
open Report (Level Log)
open Settings (Host LoadError)

/-- How the transport of a server ends. -/
inductive TransportEnd where
  | finished
  | interrupted
  | failed (reason : String)
  deriving DecidableEq, Repr

/-- A transport that was started: the name findings are published under and, over TCP, host
and port as far as they were given. -/
structure TransportStart where
  source : String
  endpoint : Option (Option String × Option Int)
  deriving DecidableEq, Repr

/-- The surroundings of a run. -/
structure Surroundings where
  host : Host
  transportEnd : TransportEnd
  /-- The process number, for messages. -/
  processId : String
  /-- The time of day, for log records. -/
  time : String
  /-- The trace of the fault being reported. -/
  trace : String

/-- What leaves the program unreported. -/
inductive Escape where
  | fault (fault : Fault)
  | load (error : LoadError)
  | access (error : AccessError)
  | interrupted

/-- How a run ends. -/
inductive Ending where
  | exit (code : Int)
  | raised (escape : Escape)

/-- What a caller can see of a run. -/
structure Outcome where
  ending : Ending
  output : String := ""
  errorOutput : String := ""
  files : FileTree
  /-- The rank of the log level, or zero when no log was set up. -/
  logLevel : Nat := 0
  /-- The number of places that log records go to. -/
  handlers : Nat := 0
  transports : List TransportStart := []

/-- Report a fault and exit, or let it pass through: the ending and the report. -/
def endWith (environment : List (String × String)) (trace : String) (verbose : Bool)
    (exitCode : Int) (fault : Fault) : Ending × String :=
  if passesThrough environment then (.raised (.fault fault), "")
  else
    let trace := if isVerbose environment verbose then some trace else none
    (.exit exitCode, fault.report trace ++ "\n")

/-! ### The log -/

/-- The rank of a log level by name; unknown levels count as informative. -/
def levelRank (name : String) : Nat :=
  if name == "debug" then Level.debug.rank
  else if name == "warn" || name == "warning" then Level.warning.rank
  else if name == "error" then Level.error.rank
  else Level.info.rank

/-- The level in force: the command line's, else the settings', else the informative one. -/
def chosenLevel (asked : Option String) (settings : Settings) : String :=
  match asked with
  | none | some "" => if settings.logLevel.isEmpty then "info" else settings.logLevel
  | some level => level

/-- Set up the log, with its file created if need be; a log file that cannot be opened is an
error. -/
def openLog (host : Host) (time : String) (asked : Option String) (settings : Settings) :
    Nat × Except AccessError (FileTree × Log) :=
  let rank := levelRank (Text.lowerString (chosenLevel asked settings))
  (rank,
    match settings.logFile with
    | none => .ok (host.files, ⟨rank, time, none⟩)
    | some path => do
      let (files, place) ← host.files.prepare host.workingDirectory
        (Path.absolute host.workingDirectory path)
      .ok (files, ⟨rank, time, some place⟩))

/-! ### Tasks -/

/-- What a task does to the two output streams and to the files, and how it ends. -/
structure TaskOutcome where
  ending : Ending
  output : String := ""
  /-- The log records. -/
  records : String := ""
  /-- What follows the log records on the error stream. -/
  message : String := ""
  files : FileTree
  transports : List TransportStart := []

/-- Check files: findings go to the output; the exit code is one when some finding is an error
or a file cannot be read. -/
def runCheck (around : Surroundings) (log : Log) (verbose : Bool) (settings : Settings)
    (arguments : List String) : TaskOutcome :=
  let workspace := Workspace.new Schema.Catalog.schema around.host.workingDirectory settings none
  let report := checkFiles log around.host workspace arguments
  let output := textLines report.lines
  let records := report.records
  let files := report.files
  match report.fault with
  | some fault =>
    let (ending, message) := endWith around.host.environment around.trace verbose 1 fault
    { ending, output, records, message, files }
  | none =>
    if report.failed then { ending := .exit 1, output, records, files }
    else
      { ending := .exit 0
        output
        records
        message := "Checked " ++ toString arguments.length ++ " file(s): no errors\n"
        files }

/-- Serve an editor until the transport ends. -/
def runServe (around : Surroundings) (verbose : Bool) (settings : Settings) (tcp : Bool)
    (host : Option String) (port : Option Int) : TaskOutcome :=
  let started := "Starting RMC XML language server (pid=" ++ around.processId ++ ")\n"
  let transports := [⟨settings.diagnosticSource, if tcp then some (host, port) else none⟩]
  let files := around.host.files
  match around.transportEnd with
  | .finished => { ending := .exit 0, message := started, files, transports }
  | .interrupted =>
    { ending := .exit 0
      message := started ++ "Language server interrupted by user.\n"
      files
      transports }
  | .failed reason =>
    let fault : Fault := .command
      { kind := .runtime, message := "Language server stopped unexpectedly: " ++ reason }
    let (ending, message) := endWith around.host.environment around.trace verbose 1 fault
    { ending, message := started ++ message, files, transports }

/-- Carry out a task. -/
def runTask (around : Surroundings) (log : Log) (verbose : Bool) (settings : Settings) :
    Task → TaskOutcome
  | .check files => runCheck around log verbose settings files
  | .serve tcp host port => runServe around verbose settings tcp host port

/-! ### Whole runs -/

/-- The directory whose settings are used. -/
def settingsRoot (host : Host) (workspace : Option String) : Except AccessError Path :=
  match workspace with
  | none | some "" => .ok host.workingDirectory
  | some directory =>
    if List.elem '\x00' directory.toList then .error ⟨.nullInPath, directory⟩
    else .ok (Path.resolve host.workingDirectory (.ofString directory))

/-- The log file that a run adds to, if it gets that far. -/
def logFile? (host : Host) (arguments : List String) : Option Path := do
  let invocation ← (readInvocation arguments).toOption
  let root ← (settingsRoot host invocation.workspace).toOption
  let settings ← (Settings.load host root).toOption
  settings.logFile

/-- Carry out a task with the log set up. -/
def runLogged (around : Surroundings) (invocation : Invocation) (settings : Settings)
    (task : Task) : Outcome :=
  match openLog around.host around.time invocation.logLevel settings with
  | (rank, .error error) =>
    { ending := .raised (.access error)
      files := around.host.files
      logLevel := rank
      handlers := 1 }
  | (rank, .ok (files, log)) =>
    let logged := { around with host := { around.host with files } }
    let done := runTask logged log invocation.verbose settings task
    { ending := done.ending
      output := done.output
      errorOutput := done.records ++ done.message
      files := done.files
      logLevel := rank
      handlers := if log.file.isSome then 2 else 1
      transports := done.transports }

/-- Carry out an invocation: load the settings, set up the log, and carry out the task. Without
a task there is only help. -/
def runInvocation (around : Surroundings) (invocation : Invocation) : Outcome :=
  let files := around.host.files
  match invocation.task with
  | none => { ending := .exit 1, output := mainGrammar.help, files }
  | some task =>
    match settingsRoot around.host invocation.workspace with
    | .error error => { ending := .raised (.access error), files }
    | .ok root =>
      match Settings.load around.host root with
      | .error (.refused problem) =>
        let fault : Fault := .command
          { kind := .settings, message := problem.message, hint := problem.hint }
        let (ending, errorOutput) :=
          endWith around.host.environment around.trace invocation.verbose 1 fault
        { ending, errorOutput, files }
      | .error error => { ending := .raised (.load error), files }
      | .ok settings => runLogged around invocation settings task

/-- Run the program with a command line. -/
def run (around : Surroundings) (arguments : List String) : Outcome :=
  let files := around.host.files
  match readInvocation arguments with
  | .ok invocation => runInvocation around invocation
  | .error (.help text) => { ending := .exit 0, output := text, files }
  | .error .version =>
    { ending := .exit 0, output := programName ++ " " ++ Server.version ++ "\n", files }
  | .error (.usageError usage program message) =>
    { ending := .exit 2
      errorOutput := usage ++ program ++ ": error: " ++ message ++ "\n"
      files }

/-- Run the server alone, with default settings and over the standard streams. -/
def runServer (around : Surroundings) : Outcome :=
  { ending := match around.transportEnd with
      | .finished => .exit 0
      | .interrupted => .raised .interrupted
      | .failed reason => .raised (.fault (.system (.runtime reason)))
    files := around.host.files
    transports := [⟨({} : Settings).diagnosticSource, none⟩] }

end TagLens.Command
