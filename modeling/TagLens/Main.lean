import TagLens.Command.Run

/-!
# The program

The outer layer: it looks up the files and the environment that a run can see, runs the
program on them, and writes what comes out. It decides nothing.
-/

namespace TagLens.Program

open Command (Escape Surroundings)
open Location (FileTree Node Path)
open Settings (Host)

/-- What stands at an absolute path; what cannot be read does not exist. -/
def look (path : String) : IO (Option Node) := do
  if path == "/dev/null" then return some .sink
  try
    return some (.file (← IO.FS.readBinFile path).toList)
  catch
    | .inappropriateType .. => return some .directory
    | _ => return none

/-- Look up an absolute path and everything above it, as far as there are directories. -/
def survey (path : Path) : IO (List (List String × Node)) := do
  let mut found := []
  for n in List.range (path.parts.length + 1) do
    let parts := path.parts.take n
    match ← look (Path.render ⟨.root, parts⟩) with
    | some .directory => found := found ++ [(parts, .directory)]
    | some node => return found ++ [(parts, node)]
    | none => return found
  return found

/-- Look up all that paths refer to, as they are written and without their double dots. -/
def surveyAll (directory : Path) (paths : List Path) : IO FileTree := do
  let mut entries := []
  for path in paths do
    entries := entries ++ (← survey (directory.join path)) ++ (← survey (directory.absolute path))
  return ⟨entries⟩

/-- The paths that an argument may refer to: a file, or a directory with settings. -/
def pathsOf (argument : String) : List Path :=
  [argument, (argument.splitOn "=").getLastD ""].flatMap fun text =>
    let path := Path.ofString text
    [path, path.child Settings.fileName, path.child Settings.projectFileName]

/-- The environment variables that have a say. -/
def variableNames : List String :=
  Settings.Field.all.map (·.variable_) ++
    ["RMC_XML_VERBOSE", "RMC_XML_DEBUG", "RMC_XML_RERAISE"]

/-- What leaves the program unreported, in words. -/
def escapeMessage : Escape → String
  | .fault fault => fault.message
  | .load error => error.message
  | .access error => error.message
  | .interrupted => "interrupted"

/-- Write the files that a run has added to. -/
def writeFiles (before after : FileTree) : IO Unit := do
  for (place, node) in after.entries do
    if let .file bytes := node then
      unless before.entries.elem (place, node) do
        IO.FS.writeBinFile (Path.render ⟨.root, place⟩) ⟨bytes.toArray⟩

/-- Run the program on what surrounds it. -/
def start (arguments : List String) : IO UInt32 := do
  let directory := Path.ofString (toString (← IO.currentDir))
  let mut environment := []
  for name in variableNames do
    if let some value ← IO.getEnv name then
      environment := environment ++ [(name, value)]
  let paths := ("." :: arguments).flatMap pathsOf
  let host : Host := ⟨← surveyAll directory paths, directory, environment, .usual⟩
  let files ← surveyAll directory (paths ++ (Command.logFile? host arguments).toList)
  let around : Surroundings :=
    { host := { host with files }
      transportEnd := .failed "no transport is available"
      processId := "-"
      time := toString (← IO.monoMsNow)
      trace := "" }
  let outcome := Command.run around arguments
  writeFiles files outcome.files
  IO.print outcome.output
  IO.eprint outcome.errorOutput
  match outcome.ending with
  | .exit code => return UInt32.ofNat code.toNat
  | .raised escape =>
    IO.eprintln (escapeMessage escape)
    return 1

end TagLens.Program

/-- The entry point of the program. -/
def main (arguments : List String) : IO UInt32 := TagLens.Program.start arguments
