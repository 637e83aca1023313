import TagLens.Settings.Basic
import TagLens.Settings.Toml.Document
import TagLens.Location.FileTree

/-!
# Where settings come from

Settings are loaded for a directory. A settings file of its own decides if there is one;
otherwise the tool table of a project file does. The environment comes after the file, so its
variables win, but a file whose values do not fit is refused all the same.

Besides the problems that are reported as failures of settings, some faults go unreported as
such and stop the load: a path that cannot be asked for, bytes that are not UTF-8, integers
with too many digits, values nested too deeply, a project file whose tools are not a table, and
a problem with a value that cannot be quoted. How deep is too deep is a matter of the `Room` that
is left on the stack.
-/

namespace TagLens.Settings

open Location (AccessError FileTree Path)

/-- How deeply values may be nested: what is left of the stack where they are looked at. -/
structure Room where
  /-- The room in which the values of a file are parsed. -/
  parsing : Nat
  /-- The room in which a value from a file or the environment is quoted. -/
  quoting : Nat
  /-- The room in which a value from a client's options is quoted. -/
  quotingOptions : Nat
  deriving DecidableEq, Repr

/-- The room on a stack of the usual size. -/
def Room.usual : Room := { parsing := 981, quoting := 990, quotingOptions := 990 }

/-- What a run can see of its surroundings. -/
structure Host where
  files : FileTree
  workingDirectory : Path
  /-- The environment variables. -/
  environment : List (String × String)
  room : Room

/-- Why settings cannot be loaded. -/
inductive LoadError where
  | refused (problem : Problem)
  | access (error : AccessError)
  | undecodable (fault : Text.Utf8.Fault)
  | overlongInteger (overlong : Text.Overlong)
  | tooDeep
  /-- A problem that cannot be put in words. -/
  | unquotable (fault : Value.QuoteFault)
  /-- A value that ought to be a table, and what was asked of it. -/
  | notTable (value : Value) (operation : String)
  deriving Repr

/-- The error in words. -/
def LoadError.message : LoadError → String
  | .refused problem => problem.message
  | .access error => error.message
  | .undecodable fault => fault.message
  | .overlongInteger overlong => overlong.message
  | .tooDeep => Toml.Fault.tooDeep.message
  | .unquotable fault => fault.message
  | .notTable value operation =>
    "'" ++ value.typeName ++ "' object has no attribute '" ++ operation ++ "'"

/-- The name of the settings file. -/
def fileName : String := "rmcxml.toml"

/-- The name of the project file. -/
def projectFileName : String := "pyproject.toml"

/-- The name of the tool in a project file. -/
def toolName : String := "rmcxml"

/-- Parse the bytes of a file. -/
def parseFile (room : Nat) (path : Path) (bytes : List UInt8) : Except LoadError Table :=
  match Text.Utf8.decode bytes with
  | .error fault => .error (.undecodable fault)
  | .ok text =>
    match Toml.parse room text with
    | .error (.overlongInteger overlong) => .error (.overlongInteger overlong)
    | .error .tooDeep => .error .tooDeep
    | .error fault => .error (.refused (.unreadable path fault.message))
    | .ok table => .ok table

/-- The table of the tool in a project file, if there is one. -/
def toolTable? (project : Table) : Except LoadError (Option Table) :=
  match project.lookup "tool" with
  | none => .ok none
  | some (.table tools) =>
    match tools.lookup toolName with
    | some (.table table) => .ok (some table)
    | _ => .ok none
  | some value => .error (.notTable value "get")

/-- The table that the files of a directory give, and where it comes from. -/
def fileTable (host : Host) (root : Path) : Except LoadError (Table × String) := do
  let regularFile? (path : Path) : Except LoadError (Option (List UInt8)) :=
    (host.files.regularFile? host.workingDirectory path).mapError .access
  let dedicated := root.child fileName
  match ← regularFile? dedicated with
  | some bytes =>
    let table ← parseFile host.room.parsing dedicated bytes
    .ok (table, dedicated.render)
  | none =>
    let project := root.child projectFileName
    match ← regularFile? project with
    | none => .ok ([], "defaults")
    | some bytes =>
      match ← toolTable? (← parseFile host.room.parsing project bytes) with
      | some table => .ok (table, project.render ++ " [tool." ++ toolName ++ "]")
      | none => .ok ([], "defaults")

/-- The table that the environment gives, in the order of the fields. -/
def environmentTable (environment : List (String × String)) : Table :=
  Field.all.filterMap fun field =>
    (environment.lookup field.variable_).map fun value => (field.name, .text value)

/-- A problem as a load error; a value that cannot be quoted takes the place of the problem
with it. -/
def LoadError.ofProblem (room : Nat) (problem : Problem) : LoadError :=
  match problem.quoteFault? room with
  | none => .refused problem
  | some fault => .unquotable fault

/-- Change settings, reporting problems as load errors. -/
def overrideOrFail (settings : Settings) (room : Nat) (table : Table) (origin : String) :
    Except LoadError Settings :=
  (settings.override table origin).mapError (.ofProblem room)

/-- Load the settings for a directory: defaults, then files, then the environment. -/
def load (host : Host) (root : Path) : Except LoadError Settings := do
  let (table, origin) ← fileTable host root
  let settings ← overrideOrFail {} host.room.quoting table origin
  settings.overrideOrFail host.room.quoting (environmentTable host.environment) "environment"

end TagLens.Settings
