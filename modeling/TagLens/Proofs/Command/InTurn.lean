import TagLens.Proofs.Command.CheckedFile
import TagLens.Proofs.Location.FileTree

/-!
# Files checked in turn

A check goes through its files in order, and each file is read when its turn comes. What is printed,
how the check ends and what it leaves behind are those of its turns up to the first file that cannot
be read (`checkFiles_inTurn`): the lines of every file are the ones that a check of this file alone
would print, the check fails for an error among them or for a file that cannot be read, and no
document stays open (`runCheck_inTurn`).

The files can change in the meantime, as every record goes to the log file at once. As long as none
of the arguments leads to the log file, each file is read as if it came first
(`LogApart.reading_eq`).
-/

namespace TagLens.Command

open Diagnosis (Finding)
open Location (FileTree)
open Report (Log)
open Settings (Host)

/-! ## Turns -/

/-- The workspace in which files are checked. -/
def checkWorkspace (host : Host) (settings : Settings) : Workspace :=
  .new Schema.Catalog.schema host.workingDirectory settings none

/-- The surroundings once records have been added to the log. -/
def logged (log : Log) (host : Host) (records : String) : Host :=
  { host with files := log.write records host.files }

/-- A file whose turn it is to be checked, and its surroundings at that moment. -/
structure Turn where
  host : Host
  argument : String

/-- Why nothing is read. -/
def faultOf : Except Fault Text → Option Fault
  | .ok _ => none
  | .error fault => some fault

/-- The findings of what is read. -/
def findingsOf (settings : Settings) : Except Fault Text → List Finding
  | .ok text => reported (Workspace.validatorFor Schema.Catalog.schema settings) text
  | .error _ => []

namespace Turn

/-- What is read. -/
def reading (turn : Turn) : Except Fault Text := readText turn.host (.ofString turn.argument)

def isReadable (turn : Turn) : Bool := (faultOf turn.reading).isNone

def findings (settings : Settings) (turn : Turn) : List Finding :=
  findingsOf settings turn.reading

/-- The findings as they are printed. -/
def lines (settings : Settings) (turn : Turn) : List String :=
  (turn.findings settings).map (lineOf turn.argument)

/-- The surroundings after a check of this file alone. -/
def next (log : Log) (settings : Settings) (turn : Turn) : Host :=
  { turn.host with
    files := (checkFiles log turn.host (checkWorkspace turn.host settings) [turn.argument]).files }

theorem checkWorkspace_next (log : Log) (settings : Settings) (turn : Turn) :
    checkWorkspace (turn.next log settings) settings = checkWorkspace turn.host settings := by
  rw [checkWorkspace, checkWorkspace, next]

end Turn

/-- The turns of files that are checked one after the other. -/
def turns (log : Log) (settings : Settings) (host : Host) : List String → List Turn
  | [] => []
  | argument :: rest =>
    ⟨host, argument⟩ :: turns log settings (Turn.next log settings ⟨host, argument⟩) rest

/-- The turns up to the first file that cannot be read. -/
def readableTurns (log : Log) (settings : Settings) (host : Host) (arguments : List String) :
    List Turn :=
  (turns log settings host arguments).takeWhile Turn.isReadable

/-! ## One turn -/

variable {log : Log} {settings : Settings} {host : Host} {argument : String}

/-- **A file that cannot be read** ends the check. -/
theorem checkFiles_of_fault {fault : Fault} (h : (Turn.mk host argument).reading = .error fault)
    (rest : List String) :
    checkFiles log host (checkWorkspace host settings) (argument :: rest)
      = { fault := some fault
          workspace := checkWorkspace host settings
          files := host.files } := by
  have hfile : checkFile host (checkWorkspace host settings) argument = .error fault := by
    have htext : readText host (.ofString argument) = .error fault := h
    rw [checkFile, htext]
    rfl
  rw [checkFiles, hfile]
  rfl

/-- **A file that is read** has its findings printed, and the check goes on where a check of this
file alone would end. -/
theorem checkFiles_of_text {text : Text} (h : (Turn.mk host argument).reading = .ok text)
    (rest : List String) {more : CheckReport}
    (hmore : checkFiles log (Turn.next log settings ⟨host, argument⟩)
      (checkWorkspace host settings) rest = more) :
    ∃ records, Turn.next log settings ⟨host, argument⟩ = logged log host records
      ∧ checkFiles log host (checkWorkspace host settings) (argument :: rest)
        = { more with
            lines := (Turn.mk host argument).lines settings ++ more.lines
            records := records ++ more.records
            failed := hasError ((Turn.mk host argument).findings settings) || more.failed } := by
  have hservice : (checkWorkspace host settings).inspection
      = .service (Workspace.validatorFor Schema.Catalog.schema settings) := rfl
  obtain ⟨closed, events, hfile, hclosed⟩ := checkFile_of_readText h hservice
  -- nothing was open before, so nothing is afterwards
  obtain rfl := hclosed rfl
  have hnext : Turn.next log settings ⟨host, argument⟩ = logged log host (log.records events) := by
    rw [Turn.next, checkFiles, hfile]
    rfl
  refine ⟨log.records events, hnext, ?_⟩
  rw [hnext, logged] at hmore
  rw [Turn.lines, Turn.findings, h, findingsOf, checkFiles, hfile, CheckReport.ofFile]
  simp only [hmore]
  rfl

/-! ## All turns -/

/-- The report tells what comes of the turns up to the first file that cannot be read. -/
structure CheckReport.InTurn (settings : Settings) (workspace : Workspace) (turns : List Turn)
    (report : CheckReport) : Prop where
  lines_eq : report.lines = (turns.takeWhile Turn.isReadable).flatMap (Turn.lines settings)
  failed_eq : report.failed
    = (turns.takeWhile Turn.isReadable).any fun turn => hasError (turn.findings settings)
  fault_eq : report.fault = turns.findSome? fun turn => faultOf turn.reading
  workspace_eq : report.workspace = workspace

/-- **A check goes through its turns** and leaves the workspace as it was. -/
theorem checkFiles_inTurn (log : Log) (settings : Settings) (host : Host)
    (arguments : List String) :
    (checkFiles log host (checkWorkspace host settings) arguments).InTurn settings
      (checkWorkspace host settings) (turns log settings host arguments) := by
  induction arguments generalizing host with
  | nil => exact ⟨rfl, rfl, rfl, rfl⟩
  | cons argument rest ih =>
      rw [turns]
      cases h : (Turn.mk host argument).reading with
      | error fault =>
          have hunreadable : ¬ (Turn.mk host argument).isReadable = true := by
            rw [Turn.isReadable, h]
            exact Bool.false_ne_true
          rw [checkFiles_of_fault h]
          refine ⟨?_, ?_, ?_, rfl⟩
          · rw [List.takeWhile_cons_of_neg hunreadable]
            rfl
          · rw [List.takeWhile_cons_of_neg hunreadable]
            rfl
          · rw [List.findSome?_cons, h]
            rfl
      | ok text =>
          have hreadable : (Turn.mk host argument).isReadable = true := by
            rw [Turn.isReadable, h]
            rfl
          -- the workspace does not depend on the files, so the rest is checked in the same one
          have hrest := ih (Turn.next log settings ⟨host, argument⟩)
          rw [Turn.checkWorkspace_next] at hrest
          obtain ⟨records, -, hreport⟩ := checkFiles_of_text h rest rfl
          rw [hreport]
          refine ⟨?_, ?_, ?_, hrest.workspace_eq⟩
          · rw [List.takeWhile_cons_of_pos hreadable, List.flatMap_cons, ← hrest.lines_eq]
          · rw [List.takeWhile_cons_of_pos hreadable, List.any_cons, ← hrest.failed_eq]
          · rw [List.findSome?_cons, h, faultOf, ← hrest.fault_eq]

/-- There is a fault if and only if some file cannot be read. -/
theorem findSome?_faultOf_ne_none {turns : List Turn} :
    (turns.findSome? fun turn => faultOf turn.reading) ≠ none
      ↔ ∃ turn ∈ turns, turn.isReadable = false := by
  rw [Ne, List.findSome?_eq_none_iff]
  push Not
  simp only [Turn.isReadable, Option.isNone_eq_false_iff, Option.isSome_iff_ne_none]

theorem hasError_iff {findings : List Finding} :
    hasError findings = true ↔ ∃ finding ∈ findings, finding.problem.severity = .error := by
  simp [hasError]

/-! ## How a check ends -/

theorem head?_intercalate {separator first : String} {c : Char}
    (h : first.toList.head? = some c) (more : List String) :
    (separator.intercalate (first :: more)).toList.head? = some c := by
  cases more with
  | nil => rw [String.intercalate_singleton, h]
  | cons second more =>
      rw [String.intercalate_cons_cons, String.toList_append, String.toList_append,
        List.append_assoc, List.head?_append, h, Option.some_or]

/-- Every report of a fault begins with the word for it. -/
theorem head?_report (fault : Fault) (trace : Option String) :
    (fault.report trace).toList.head? = some 'E' := by
  cases fault with
  | command error => exact head?_intercalate (by simp) _
  | failure reason => exact head?_intercalate (by simp) _
  | system inner => exact head?_intercalate (by simp) _

/-- What is told about files without errors. -/
def summary (count : Nat) : String := "Checked " ++ toString count ++ " file(s): no errors\n"

theorem report_ne_summary (fault : Fault) (trace : Option String) (count : Nat) :
    fault.report trace ++ "\n" ≠ summary count := by
  intro h
  have hhead : (fault.report trace ++ "\n").toList.head? = some 'E' := by
    rw [String.toList_append, List.head?_append, head?_report, Option.some_or]
  rw [h, summary] at hhead
  exact absurd hhead (by simp)

theorem summary_ne_empty (count : Nat) : summary count ≠ "" := by
  intro h
  have hempty : (summary count).toList = [] := by rw [h, String.toList_empty]
  exact absurd hempty (by simp [summary])

/-- A check fails for a fault or for an error among the findings, and only otherwise does it tell
that there are none. -/
theorem runCheck_of_report {around : Surroundings}
    (hhandled : passesThrough around.host.environment = false) {arguments : List String}
    {report : CheckReport}
    (hreport : checkFiles log around.host (checkWorkspace around.host settings) arguments = report)
    (verbose : Bool) {done : TaskOutcome}
    (hdone : runCheck around log verbose settings arguments = done) :
    done.output = textLines report.lines
      ∧ (done.ending = .exit 1 ↔ report.fault ≠ none ∨ report.failed = true)
      ∧ (done.ending ≠ .exit 1 → done.ending = .exit 0)
      ∧ (done.message = summary arguments.length ↔ done.ending ≠ .exit 1) := by
  rw [checkWorkspace] at hreport
  rw [runCheck, hreport] at hdone
  cases hfault : report.fault with
  | some fault =>
      obtain ⟨trace, hend⟩ : ∃ trace, endWith around.host.environment around.trace verbose 1 fault
          = (.exit 1, fault.report trace ++ "\n") := by
        rw [endWith, hhandled]
        exact ⟨_, rfl⟩
      simp only [hfault, hend] at hdone
      subst hdone
      simp [report_ne_summary]
  | none =>
      rw [hfault] at hdone
      cases hfailed : report.failed with
      | true =>
          simp only [hfailed, if_true] at hdone
          subst hdone
          simp [summary_ne_empty]
      | false =>
          simp only [hfailed] at hdone
          subst hdone
          simp [summary]

/-- A check of one file prints the lines of its only turn. -/
theorem output_singleton (around : Surroundings)
    (hhandled : passesThrough around.host.environment = false) (log : Log) (verbose : Bool)
    (settings : Settings) (argument : String) :
    (runCheck around log verbose settings [argument]).output
      = textLines ((Turn.mk around.host argument).lines settings) := by
  obtain ⟨hlines, -, -, -⟩ := checkFiles_inTurn log settings around.host [argument]
  rw [(runCheck_of_report hhandled rfl verbose rfl).1, hlines, turns, turns]
  cases h : (Turn.mk around.host argument).reading with
  | ok text => simp [Turn.isReadable, h, faultOf]
  -- a file that cannot be read has no turn before the first such file, and no lines either
  | error fault => simp [Turn.isReadable, Turn.lines, Turn.findings, h, faultOf, findingsOf]

/-! ## The log file -/

/-- The log has no file, or one that holds nothing, or one that is there already and that none of
the arguments leads to. -/
inductive LogApart (log : Log) (host : Host) (arguments : List String) : Prop where
  | none (hfile : log.file = none)
  | sink {place : List String} (hfile : log.file = some place)
    (hsink : host.files.node? place = some .sink)
  | file {place : List String} {bytes : List UInt8} (hfile : log.file = some place)
    (hbytes : host.files.node? place = some (.file bytes))
    (hapart : ∀ argument ∈ arguments,
      host.files.place host.workingDirectory (.ofString argument) ≠ .ok place)

namespace LogApart

variable {arguments : List String}

/-- Adding records to the log changes nothing, or only the file that none of the arguments leads
to. -/
theorem write_cases (h : LogApart log host arguments) (records : String) :
    log.write records host.files = host.files
      ∨ ∃ place old bytes, log.file = some place
        ∧ host.files.node? place = some (.file old)
        ∧ (∀ argument ∈ arguments,
          host.files.place host.workingDirectory (.ofString argument) ≠ .ok place)
        ∧ log.write records host.files = host.files.put place bytes := by
  cases h with
  | none hfile =>
      left
      rw [Log.write, hfile]
  | sink hfile hsink =>
      left
      simp only [Log.write, hfile, FileTree.append, hsink]
  | @file place old hfile hold hapart =>
      refine .inr ⟨place, old, old ++ Text.Utf8.encode records.toList, hfile, hold, hapart, ?_⟩
      simp only [Log.write, hfile, FileTree.append, hold]

theorem logged (h : LogApart log host arguments) (records : String) :
    LogApart log (Command.logged log host records) arguments := by
  rw [Command.logged]
  rcases h.write_cases records with hsame | ⟨place, old, bytes, hfile, hold, hapart, hput⟩
  · rw [hsame]
    exact h
  · rw [hput]
    refine .file hfile (FileTree.node?_put host.files place bytes) ?_
    intro argument hargument
    simp only [FileTree.place_put hold]
    exact hapart argument hargument

theorem reading_logged (h : LogApart log host arguments) (records : String)
    (hargument : argument ∈ arguments) :
    (Turn.mk (Command.logged log host records) argument).reading
      = (Turn.mk host argument).reading := by
  rw [Command.logged]
  rcases h.write_cases records with hsame | ⟨place, old, bytes, -, hold, hapart, hput⟩
  · rw [hsame]
  · have hread := FileTree.read_put_of_ne hold bytes (hapart argument hargument)
    rw [hput]
    simp only [Turn.reading, readText, hread]

end LogApart

/-- A turn adds records to the log, and does nothing else. -/
theorem Turn.next_cases (log : Log) (settings : Settings) (turn : Turn) :
    turn.next log settings = turn.host
      ∨ ∃ records, turn.next log settings = logged log turn.host records := by
  cases h : turn.reading with
  | error fault =>
      left
      rw [next, checkFiles_of_fault h]
  | ok text =>
      obtain ⟨records, hnext, -⟩ := checkFiles_of_text h [] rfl
      exact .inr ⟨records, hnext⟩

theorem map_argument_turns (log : Log) (settings : Settings) (host : Host)
    (arguments : List String) :
    (turns log settings host arguments).map Turn.argument = arguments := by
  induction arguments generalizing host with
  | nil => rfl
  | cons argument rest ih => rw [turns, List.map_cons, ih]

/-- A turn is that of an argument, in the environment of the whole check. -/
theorem mem_turns {arguments : List String} {turn : Turn}
    (h : turn ∈ turns log settings host arguments) :
    turn.argument ∈ arguments ∧ turn.host.environment = host.environment := by
  induction arguments generalizing host with
  | nil => exact absurd h List.not_mem_nil
  | cons argument rest ih =>
      rw [turns] at h
      rcases List.mem_cons.mp h with rfl | h
      · exact ⟨List.mem_cons_self, rfl⟩
      · obtain ⟨hargument, henvironment⟩ := ih h
        rw [Turn.next] at henvironment
        exact ⟨List.mem_cons_of_mem _ hargument, henvironment⟩

/-- **With the log apart, each file is read as if it came first.** -/
theorem LogApart.reading_eq {arguments rest : List String} (h : LogApart log host arguments)
    (hrest : rest ⊆ arguments) {turn : Turn} (hturn : turn ∈ turns log settings host rest) :
    turn.reading = (Turn.mk host turn.argument).reading := by
  induction rest generalizing host with
  | nil => exact absurd hturn List.not_mem_nil
  | cons argument rest ih =>
      obtain ⟨-, hrest⟩ := List.cons_subset.mp hrest
      rw [turns] at hturn
      rcases List.mem_cons.mp hturn with rfl | hturn
      · rfl
      · -- the log may have grown since the first turn, but this file is none of it
        have hargument := hrest (mem_turns hturn).1
        rcases Turn.next_cases log settings ⟨host, argument⟩ with hnext | ⟨records, hnext⟩
        · rw [hnext] at hturn
          exact ih h hrest hturn
        · rw [hnext] at hturn
          exact (ih (h.logged records) hrest hturn).trans (h.reading_logged records hargument)

/-- Without a log file, nothing changes from turn to turn. -/
theorem turns_of_unlogged (hfile : log.file = none) (settings : Settings) (host : Host)
    (arguments : List String) :
    turns log settings host arguments = arguments.map (Turn.mk host) := by
  have hnext : ∀ turn : Turn, turn.next log settings = turn.host := by
    intro turn
    rcases turn.next_cases log settings with hnext | ⟨records, hnext⟩
    · exact hnext
    · rw [hnext, logged, Log.write, hfile]
  induction arguments with
  | nil => rfl
  | cons argument rest ih => rw [turns, hnext, ih, List.map_cons]

/-! ## What a check does -/

/-- **What a check of files does**, unless faults are to pass through. It prints the findings of the
files up to the first that cannot be read, in the order of the arguments and of the findings. It
ends with one exactly when some file cannot be read or some finding that it prints is an error, and
with zero otherwise; then and only then does it tell that there are no errors. Each file gives rise
to the lines that a check of this file alone would print at that moment, and even at the start as
long as the log is kept apart. No document stays open, whatever happens. -/
theorem runCheck_inTurn (around : Surroundings)
    (hhandled : passesThrough around.host.environment = false) (log : Log) (verbose : Bool)
    (settings : Settings) (arguments : List String) (done : TaskOutcome)
    (hdone : runCheck around log verbose settings arguments = done) :
    (turns log settings around.host arguments).map Turn.argument = arguments
      ∧ done.output = textLines
        ((readableTurns log settings around.host arguments).flatMap (Turn.lines settings))
      ∧ (done.ending = .exit 1
        ↔ (∃ turn ∈ turns log settings around.host arguments, turn.isReadable = false)
          ∨ ∃ turn ∈ readableTurns log settings around.host arguments,
            ∃ finding ∈ turn.findings settings, finding.problem.severity = .error)
      ∧ (done.ending ≠ .exit 1 → done.ending = .exit 0)
      ∧ (done.message = summary arguments.length ↔ done.ending ≠ .exit 1)
      ∧ (∀ turn ∈ turns log settings around.host arguments,
        (runCheck { around with host := turn.host } log verbose settings [turn.argument]).output
            = textLines (turn.lines settings)
          ∧ (LogApart log around.host arguments →
            turn.reading = readText around.host (.ofString turn.argument)
              ∧ (runCheck around log verbose settings [turn.argument]).output
                = textLines (turn.lines settings)))
      ∧ (checkFiles log around.host (checkWorkspace around.host settings)
          arguments).workspace.openUris = [] := by
  obtain ⟨hlines, hfailed, hfault, hworkspace⟩ :=
    checkFiles_inTurn log settings around.host arguments
  obtain ⟨houtput, hending, hzero, hmessage⟩ := runCheck_of_report hhandled rfl verbose hdone
  rw [hfailed, hfault, findSome?_faultOf_ne_none, List.any_eq_true] at hending
  simp only [hasError_iff] at hending
  refine ⟨map_argument_turns log settings around.host arguments, ?_, hending, hzero, hmessage,
    ?_, ?_⟩
  · rw [houtput, hlines, readableTurns]
  · intro turn hturn
    have hthen : passesThrough turn.host.environment = false := by
      rw [(mem_turns hturn).2, hhandled]
    refine ⟨output_singleton { around with host := turn.host } hthen log verbose settings
      turn.argument, ?_⟩
    intro hapart
    have hreading := hapart.reading_eq (List.Subset.refl arguments) hturn
    refine ⟨hreading, ?_⟩
    rw [output_singleton around hhandled, Turn.lines, Turn.lines, Turn.findings, Turn.findings,
      hreading]
  · rw [hworkspace]
    rfl

/-- A catalog that only lacks its declaration. -/
def undeclared : Text := "<EtaRsccat UpsilonProduct=\"p\"></EtaRsccat>".toList

/-- A log without a file. -/
def plainLog : Log := ⟨20, "12:00", none⟩

theorem runCheck_inTurn_undeclared :
    passesThrough (surroundingsWith undeclared).host.environment = false
      ∧ (∃ done, runCheck (surroundingsWith undeclared) plainLog false
          { requireDeclaration := true } ["catalog.xml", "catalog.xml"] = done
        ∧ done.ending = .exit 0 ∧ done.message = "Checked 2 file(s): no errors\n")
      ∧ ∃ done, runCheck (surroundingsWith undeclared) plainLog false
          { requireDeclaration := true } ["catalog.xml", "gone.xml", "catalog.xml"] = done
        ∧ done.ending = .exit 1
        ∧ done.output = textLines ["catalog.xml:1:1: warning: "
          ++ "XML document should start with XML declaration [missing-xml-declaration]"] := by
  have hread : (Turn.mk (surroundingsWith undeclared).host "catalog.xml").reading
      = .ok undeclared := by
    have hbytes : (surroundingsWith undeclared).host.files.read
        (surroundingsWith undeclared).host.workingDirectory (.ofString "catalog.xml")
          = .ok (Text.Utf8.encode undeclared) := rfl
    exact readText_eq_ok hbytes (Text.Utf8.decode_encode_of_ascii (by decide))
  have hgone : (Turn.mk (surroundingsWith undeclared).host "gone.xml").isReadable = false := rfl
  have hfindings : (Turn.mk (surroundingsWith undeclared).host "catalog.xml").findings
      { requireDeclaration := true } = [⟨.onLine 0 0 5, .missingDeclaration⟩] := by
    rw [Turn.findings, hread, findingsOf]
    decide +kernel
  have hreadable : (Turn.mk (surroundingsWith undeclared).host "catalog.xml").isReadable
      = true := by
    rw [Turn.isReadable, hread]
    rfl
  have hturns := turns_of_unlogged (show plainLog.file = none from rfl)
    { requireDeclaration := true } (surroundingsWith undeclared).host
  refine ⟨rfl, ⟨_, rfl, ?_⟩, _, rfl, ?_⟩
  · obtain ⟨-, -, hending, hzero, hmessage, -⟩ := runCheck_inTurn (surroundingsWith undeclared) rfl
      plainLog false { requireDeclaration := true } ["catalog.xml", "catalog.xml"] _ rfl
    rw [readableTurns, hturns] at hending
    have hclean := mt hending.mp (by simp [hreadable, hfindings, Diagnosis.Problem.severity])
    exact ⟨hzero hclean, hmessage.mpr hclean⟩
  · obtain ⟨-, houtput, hending, -⟩ := runCheck_inTurn (surroundingsWith undeclared) rfl
      plainLog false { requireDeclaration := true } ["catalog.xml", "gone.xml", "catalog.xml"] _ rfl
    rw [readableTurns, hturns] at houtput hending
    have hfirst : (["catalog.xml", "gone.xml", "catalog.xml"].map
        (Turn.mk (surroundingsWith undeclared).host)).takeWhile Turn.isReadable
          = [⟨(surroundingsWith undeclared).host, "catalog.xml"⟩] := by
      simp [hreadable, hgone]
    refine ⟨hending.mpr (.inl ⟨_, by simp, hgone⟩), houtput.trans ?_⟩
    rw [hfirst, List.flatMap_singleton, Turn.lines, hfindings]
    decide +kernel

end TagLens.Command
