import TagLens.Command.Run
import TagLens.Proofs.Diagnosis.CarriageReturn
import TagLens.Proofs.Workspace.Operation

/-!
# What a check of a file prints

A check reads a file as text, so every way of ending a line becomes a line feed, and then opens it
as a server would open the text that a client sends. The findings are those of the text as it stands
in the file, up to the ends of ranges, which are not printed, as long as every carriage return in it
stands in front of a line feed (`check_prints_findings`). A lone carriage return makes the check see
a line end where the server sees none (`check_loneReturn`).
-/

namespace TagLens.Command

open Diagnosis (Finding Validator Addressable)
open Location (FileTree Path)
open Report (Log)
open Settings (Host)

/-! ## The findings of a text -/

/-- The findings that a validator leads to: its own, or the one that tells why it has none. -/
def reported (validator : Validator) (text : Text) : List Finding :=
  match validator.validate text with
  | .ok findings => findings
  | .error fault => [⟨Diagnosis.documentStart, .internal fault.message⟩]

/-- Opening a document reports the findings of its text, whatever else is open. -/
theorem findings_openDocument {workspace : Workspace} {validator : Validator}
    (h : workspace.inspection = .service validator) (uri : String) (text : Text) (version : Int) :
    (workspace.openDocument uri text version).2.1 = reported validator text := by
  have hbuffer : (Workspace.putBuffer uri (.new uri text version) workspace.documents).lookup uri
      = some (.new uri text version) := by
    rw [Workspace.lookup_putBuffer, if_pos rfl]
  simp only [Workspace.openDocument, Workspace.validate, Workspace.document?, hbuffer,
    Document.Buffer.text_new, Workspace.inspect, h, reported]
  cases validator.validate text with
  | ok findings => rfl
  | error fault => rfl

/-- The line of a finding tells its gist and nothing more. -/
theorem map_lineOf_eq {findings others : List Finding}
    (h : findings.map Finding.gist = others.map Finding.gist) (path : String) :
    findings.map (lineOf path) = others.map (lineOf path) := by
  have hline : lineOf path = (fun gist : Document.Position × Diagnosis.Problem =>
      findingLine path gist.1 gist.2.severity gist.2.message (some gist.2.code))
        ∘ Finding.gist := rfl
  rw [hline, ← List.map_map, ← List.map_map, h]

theorem map_gist_reported {validator : Validator} {first second : Text}
    (h : Diagnosis.gists (validator.validate first) = Diagnosis.gists (validator.validate second)) :
    (reported validator first).map Finding.gist = (reported validator second).map Finding.gist := by
  rw [reported, reported]
  rcases cases_of_map_eq h with
    ⟨fault, hfirst, hsecond⟩ | ⟨found, other, hfirst, hsecond, hsame⟩
  · rw [hfirst, hsecond]
  · rw [hfirst, hsecond]
    exact hsame

/-! ## A run that checks one file -/

/-- A run that comes to check one file, whose bytes are the encoding of a text. -/
structure FileCheck (around : Surroundings) where
  /-- The command line. -/
  arguments : List String
  invocation : Invocation
  /-- The file as the command line names it. -/
  argument : String
  root : Path
  settings : Settings
  /-- The files once the log is set up. -/
  files : FileTree
  log : Log
  bytes : List UInt8
  text : Text
  readInvocation_eq : readInvocation arguments = .ok invocation
  task_eq : invocation.task = some (.check [argument])
  settingsRoot_eq : settingsRoot around.host invocation.workspace = .ok root
  load_eq : Settings.load around.host root = .ok settings
  openLog_eq : (openLog around.host around.time invocation.logLevel settings).2 = .ok (files, log)
  read_eq : files.read around.host.workingDirectory (.ofString argument) = .ok bytes
  decode_eq : Text.Utf8.decode bytes = .ok text

/-- Some finding is an error. -/
def hasError (findings : List Finding) : Bool :=
  findings.any fun finding => finding.problem.severity = .error

theorem hasError_eq (findings : List Finding) :
    hasError findings
      = (findings.map Finding.gist).any fun gist => gist.2.severity = .error := by
  rw [hasError, List.any_map]
  rfl

/-- A file that is read is opened, and closed again. -/
theorem checkFile_of_readText {host : Host} {argument : String} {text : Text}
    (htext : readText host (.ofString argument) = .ok text) {workspace : Workspace}
    {validator : Validator} (hservice : workspace.inspection = .service validator) :
    ∃ closed events, checkFile host workspace argument
        = .ok (closed, reported validator text, events)
      ∧ (workspace.documents = [] → closed = workspace) := by
  have hfindings := findings_openDocument hservice
    (Location.Uri.ofPath (Path.resolve host.workingDirectory (.ofString argument))) text 1
  rw [checkFile, htext]
  simp only [bind, Except.bind]
  rw [← hfindings]
  refine ⟨_, _, rfl, ?_⟩
  intro hempty
  exact Workspace.close_openDocument hempty _ text 1

/-- The text of a file is what its bytes encode, with line feeds only. -/
theorem readText_eq_ok {host : Host} {path : Path} {bytes : List UInt8} {text : Text}
    (hread : host.files.read host.workingDirectory path = .ok bytes)
    (hdecode : Text.Utf8.decode bytes = .ok text) :
    readText host path = .ok (Text.universalNewlines text) := by
  rw [readText, hread]
  simp only [hdecode]

theorem checkFile_eq_ok {host : Host} {argument : String} {bytes : List UInt8} {text : Text}
    (hread : host.files.read host.workingDirectory (.ofString argument) = .ok bytes)
    (hdecode : Text.Utf8.decode bytes = .ok text) {workspace : Workspace} {validator : Validator}
    (hservice : workspace.inspection = .service validator) :
    ∃ closed events, checkFile host workspace argument
      = .ok (closed, reported validator (Text.universalNewlines text), events) := by
  obtain ⟨closed, events, hfile, -⟩ :=
    checkFile_of_readText (readText_eq_ok hread hdecode) hservice
  exact ⟨closed, events, hfile⟩

/-- With one file to check, the report holds the lines of its findings. -/
theorem checkFiles_singleton {host : Host} {workspace closed : Workspace} {argument : String}
    {findings : List Finding} {events : List Report.Event}
    (h : checkFile host workspace argument = .ok (closed, findings, events)) (log : Log) :
    (checkFiles log host workspace [argument]).lines = findings.map (lineOf argument)
      ∧ (checkFiles log host workspace [argument]).failed = hasError findings
      ∧ (checkFiles log host workspace [argument]).fault = none := by
  rw [checkFiles, h]
  exact ⟨List.append_nil _, Bool.or_false _, rfl⟩

/-- A check of one file prints the findings of its text, and fails if one of them is an error. -/
theorem runCheck_singleton (logged : Surroundings) {argument : String} {bytes : List UInt8}
    {text : Text} (hread : logged.host.files.read logged.host.workingDirectory (.ofString argument)
      = .ok bytes)
    (hdecode : Text.Utf8.decode bytes = .ok text) (log : Log) (verbose : Bool)
    (settings : Settings) {findings : List Finding}
    (hfindings : reported (Workspace.validatorFor Schema.Catalog.schema settings)
      (Text.universalNewlines text) = findings) :
    (runCheck logged log verbose settings [argument]).output
        = textLines (findings.map (lineOf argument))
      ∧ (runCheck logged log verbose settings [argument]).ending
        = .exit (if hasError findings then 1 else 0) := by
  have hservice : (Workspace.new Schema.Catalog.schema logged.host.workingDirectory settings
      none).inspection = .service (Workspace.validatorFor Schema.Catalog.schema settings) := rfl
  obtain ⟨closed, events, hfile⟩ := checkFile_eq_ok hread hdecode hservice
  obtain ⟨hlines, hfailed, hfault⟩ := checkFiles_singleton hfile log
  rw [hfindings] at hlines hfailed
  rw [runCheck]
  generalize checkFiles log logged.host (Workspace.new Schema.Catalog.schema
    logged.host.workingDirectory settings none) [argument] = report at hlines hfailed hfault ⊢
  simp only [hlines, hfailed, hfault]
  cases hasError findings with
  | true => exact ⟨rfl, rfl⟩
  | false => exact ⟨rfl, rfl⟩

/-- With the log set up, the task decides about output and ending. -/
theorem runLogged_eq {around : Surroundings} {invocation : Invocation} {settings : Settings}
    {files : FileTree} {log : Log}
    (h : (openLog around.host around.time invocation.logLevel settings).2 = .ok (files, log))
    (task : Task) :
    (runLogged around invocation settings task).output
        = (runTask { around with host := { around.host with files } } log invocation.verbose
            settings task).output
      ∧ (runLogged around invocation settings task).ending
        = (runTask { around with host := { around.host with files } } log invocation.verbose
            settings task).ending := by
  rw [runLogged]
  generalize openLog around.host around.time invocation.logLevel settings = opened at h ⊢
  obtain ⟨rank, result⟩ := opened
  subst h
  exact ⟨rfl, rfl⟩

/-- The run prints the findings of the text as it is read. -/
theorem run_fileCheck {around : Surroundings} (check : FileCheck around) {findings : List Finding}
    (hfindings : reported (Workspace.validatorFor Schema.Catalog.schema check.settings)
      (Text.universalNewlines check.text) = findings) :
    (run around check.arguments).output = textLines (findings.map (lineOf check.argument))
      ∧ (run around check.arguments).ending = .exit (if hasError findings then 1 else 0) := by
  have hrun : run around check.arguments
      = runLogged around check.invocation check.settings (.check [check.argument]) := by
    rw [run, check.readInvocation_eq]
    simp only [runInvocation, check.task_eq, check.settingsRoot_eq, check.load_eq]
  obtain ⟨houtput, hending⟩ := runLogged_eq check.openLog_eq (.check [check.argument])
  rw [hrun, houtput, hending, runTask]
  exact runCheck_singleton { around with host := { around.host with files := check.files } }
    check.read_eq check.decode_eq check.log check.invocation.verbose check.settings hfindings

/-! ## The text in the file -/

theorem properNames_catalog : Diagnosis.ProperNames Schema.Catalog.schema where
  root := by decide +kernel
  required := by decide +kernel

/-- **A check prints the findings of the text in the file**, and fails exactly when one of them is
an error: those findings that a workspace with the same settings reports when the text is opened in
it, under any URI and version and whatever else is open. Every carriage return has to stand in front
of a line feed; and if there are any, the lines have to be within reach together with them. -/
theorem check_prints_findings (around : Surroundings) (check : FileCheck around)
    (hpaired : Text.Paired check.text)
    (hreach : Addressable check.text ∨ '\r' ∉ check.text) (workspace : Workspace)
    (hservice : workspace.inspection
      = .service (Workspace.validatorFor Schema.Catalog.schema check.settings))
    (uri : String) (version : Int) :
    (run around check.arguments).output
        = textLines ((workspace.openDocument uri check.text version).2.1.map
            (lineOf check.argument))
      ∧ (run around check.arguments).ending
        = .exit (if hasError (workspace.openDocument uri check.text version).2.1 then 1
            else 0) := by
  have hgists : (reported (Workspace.validatorFor Schema.Catalog.schema check.settings)
        (Text.universalNewlines check.text)).map Finding.gist
      = ((workspace.openDocument uri check.text version).2.1).map Finding.gist := by
    rw [findings_openDocument hservice]
    rcases hreach with hreach | hnone
    · refine (map_gist_reported ?_).symm
      exact Diagnosis.gists_validate (Text.joined_universalNewlines hpaired) properNames_catalog
        hreach
    · -- the file is read as it stands, so both sides fail alike on a line out of reach
      rw [Text.universalNewlines_of_not_mem hnone]
  obtain ⟨houtput, hending⟩ := run_fileCheck check rfl
  rw [houtput, hending, map_lineOf_eq hgists, hasError_eq, hgists, ← hasError_eq]
  exact ⟨rfl, rfl⟩

/-- A run in a directory with one file, `catalog.xml`. -/
def surroundingsWith (text : Text) : Surroundings where
  host :=
    { files := ⟨[(["project", "catalog.xml"], .file (Text.Utf8.encode text))]⟩
      workingDirectory := ⟨.root, ["project"]⟩
      environment := []
      room := .usual }
  transportEnd := .finished
  processId := "1"
  time := "12:00"
  trace := ""

/-- The run that checks the file. -/
def checkOf (text : Text) (h : text.all (·.toNat < 128) = true) :
    FileCheck (surroundingsWith text) where
  arguments := ["check", "catalog.xml"]
  invocation := ⟨none, none, false, some (.check ["catalog.xml"])⟩
  argument := "catalog.xml"
  root := ⟨.root, ["project"]⟩
  settings := {}
  files := (surroundingsWith text).host.files
  log := ⟨20, "12:00", none⟩
  bytes := Text.Utf8.encode text
  text := text
  readInvocation_eq := rfl
  task_eq := rfl
  settingsRoot_eq := rfl
  load_eq := rfl
  openLog_eq := rfl
  read_eq := rfl
  decode_eq := Text.Utf8.decode_encode_of_ascii h

/-- The workspace of a server with default settings. -/
def defaultWorkspace : Workspace := .new Schema.Catalog.schema ⟨.root, []⟩ {} none

/-- A catalog with carriage returns, without its product, and with a closing tag too many. -/
def catalogText : Text := "<EtaRsccat>\r\n</EtaRsccat>\r\n</x>".toList

theorem check_prints_findings_catalogText :
    Text.Paired catalogText ∧ Addressable catalogText ∧ '\r' ∈ catalogText
      ∧ (run (surroundingsWith catalogText) ["check", "catalog.xml"]).output
        = textLines
            ["catalog.xml:1:1: error: EtaRsccat element requires UpsilonProduct attribute "
                ++ "[missing-required-attribute]",
              "catalog.xml:3:1: error: Closing tag </x> has no matching opening tag "
                ++ "[unmatched-closing-tag]"]
      ∧ (run (surroundingsWith catalogText) ["check", "catalog.xml"]).ending = .exit 1 := by
  have hpaired : Text.Paired catalogText := by decide
  have hreach : Addressable catalogText := Diagnosis.addressable_of_length_le (by decide)
  have hfindings : (defaultWorkspace.openDocument "file:///catalog.xml" catalogText 7).2.1
      = [⟨.onLine 0 0 12, .missingAttribute "EtaRsccat".toList "UpsilonProduct".toList⟩,
          ⟨.onLine 2 0 4, .unmatchedClosing ['x']⟩] := by decide +kernel
  obtain ⟨houtput, hending⟩ := check_prints_findings (surroundingsWith catalogText)
    (checkOf catalogText (by decide)) hpaired (.inl hreach) defaultWorkspace rfl
    "file:///catalog.xml" 7
  refine ⟨hpaired, hreach, by decide, houtput.trans ?_, hending.trans ?_⟩
  · show textLines ((defaultWorkspace.openDocument _ catalogText 7).2.1.map _) = _
    rw [hfindings]
    decide +kernel
  · show Ending.exit (if hasError (defaultWorkspace.openDocument _ catalogText 7).2.1 then 1 else 0)
      = _
    rw [hfindings]
    rfl

/-- A catalog with a lone carriage return as blank space in its tag. -/
def loneReturn : Text := "<EtaRsccat\rUpsilonProduct=\"p\"></EtaRsccat>".toList

/-- A lone carriage return tells the check of a file and the server apart. -/
theorem check_loneReturn :
    (defaultWorkspace.openDocument "file:///catalog.xml" loneReturn 1).2.1 = []
      ∧ (run (surroundingsWith loneReturn) ["check", "catalog.xml"]).output
        = textLines
            ["catalog.xml:1:1: error: EtaRsccat element requires UpsilonProduct attribute "
              ++ "[missing-required-attribute]"]
      ∧ (run (surroundingsWith loneReturn) ["check", "catalog.xml"]).ending = .exit 1 := by
  have hreported : reported (Workspace.validatorFor Schema.Catalog.schema {})
      (Text.universalNewlines loneReturn)
        = [⟨.onLine 0 0 10, .missingAttribute "EtaRsccat".toList "UpsilonProduct".toList⟩] := by
    decide +kernel
  obtain ⟨houtput, hending⟩ := run_fileCheck (checkOf loneReturn (by decide)) hreported
  refine ⟨by decide +kernel, houtput.trans ?_, hending⟩
  decide +kernel

end TagLens.Command
