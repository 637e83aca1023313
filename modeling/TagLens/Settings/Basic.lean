import TagLens.Text.LowerCase
import TagLens.Location.Path
import TagLens.Report.Failure
import TagLens.Settings.Value

/-!
# Settings

The settings shared by the server and the command line. Settings are changed by tables of
named values, one after the other: later entries win, names may be spelled with hyphens or
underscores, and unknown names and null values are passed over. An entry whose value does not
fit its field refuses the whole table.
-/

namespace TagLens

open Location (Path)

/-- Resolved settings. -/
structure Settings where
  /-- The name under which findings are published. -/
  diagnosticSource : String := "rmc-xml-lsp"
  checkStructure : Bool := true
  requireDeclaration : Bool := false
  logLevel : String := "info"
  logFile : Option Path := none
  deriving DecidableEq, Repr

namespace Settings

/-- The fields that can be set. -/
inductive Field where
  | diagnosticSource
  | checkStructure
  | requireDeclaration
  | logLevel
  | logFile
  deriving DecidableEq, Repr

namespace Field

/-- All fields, in the order in which the environment is asked for them. -/
def all : List Field :=
  [.diagnosticSource, .checkStructure, .requireDeclaration, .logLevel, .logFile]

/-- The name of a field. -/
def name : Field → String
  | .diagnosticSource => "diagnostic_source"
  | .checkStructure => "check_structure"
  | .requireDeclaration => "require_xml_declaration"
  | .logLevel => "log_level"
  | .logFile => "log_file"

/-- The environment variable that sets a field. -/
def variable_ : Field → String
  | .diagnosticSource => "RMC_XML_DIAGNOSTIC_SOURCE"
  | .checkStructure => "RMC_XML_CHECK_STRUCTURE"
  | .requireDeclaration => "RMC_XML_REQUIRE_XML_DECLARATION"
  | .logLevel => "RMC_XML_LOG_LEVEL"
  | .logFile => "RMC_XML_LOG_FILE"

/-- What the value of a field has to be, in words. -/
def expectation : Field → String
  | .checkStructure | .requireDeclaration => "boolean"
  | .logFile => "path"
  | .diagnosticSource | .logLevel => "string"

/-- The field that a key names; hyphens count as underscores. -/
def ofKey? (key : String) : Option Field :=
  let normalised := String.ofList (Text.replaceChar '-' '_' key.toList)
  all.find? fun field => field.name == normalised

end Field

/-- Why settings are refused. -/
inductive Problem where
  /-- A value that does not fit its field, and where it comes from. -/
  | misfit (field : Field) (value : Value) (origin : String)
  /-- A settings file that cannot be parsed. -/
  | unreadable (path : Path) (reason : String)
  deriving Repr

/-- The problem in words. -/
def Problem.message : Problem → String
  | .misfit field value origin =>
    "'" ++ field.name ++ "' in " ++ origin ++ " must be a " ++ field.expectation ++ ", got "
      ++ value.render
  | .unreadable path reason => "Cannot read " ++ path.render ++ ": " ++ reason

/-- Why the problem cannot be put in words, with this much room to quote a value. -/
def Problem.quoteFault? (room : Nat) : Problem → Option Value.QuoteFault
  | .misfit _ value _ => value.quoteFault? room
  | .unreadable _ _ => none

/-- What can be done about the problem. -/
def Problem.hint : Problem → Option String
  | .misfit _ _ _ => none
  | .unreadable _ _ => some "Fix or remove the file"

/-- The problem as a failure. -/
def Problem.toFailure (problem : Problem) : Report.Failure :=
  { kind := .settings, message := problem.message, hint := problem.hint }

/-! ### Setting fields -/

/-- The words for yes. -/
def trueWords : List String := ["1", "true", "yes", "on"]

/-- The words for no. -/
def falseWords : List String := ["0", "false", "no", "off"]

/-- A truth value, or a word for one in any case. -/
def truth? : Value → Option Bool
  | .boolean value => some value
  | .text word =>
    let word := Text.lowerString word
    if trueWords.elem word then some true
    else if falseWords.elem word then some false
    else none
  | _ => none

/-- A text. -/
def text? : Value → Option String
  | .text value => some value
  | _ => none

/-- A path, or a text that is read as one. -/
def path? : Value → Option Path
  | .text value => some (.ofString value)
  | .path value => some value
  | _ => none

/-- Set one field, if the value fits it. -/
def set? (settings : Settings) (field : Field) (value : Value) : Option Settings :=
  match field with
  | .diagnosticSource => (text? value).map fun s => { settings with diagnosticSource := s }
  | .checkStructure => (truth? value).map fun b => { settings with checkStructure := b }
  | .requireDeclaration => (truth? value).map fun b => { settings with requireDeclaration := b }
  | .logLevel => (text? value).map fun s => { settings with logLevel := Text.lowerString s }
  | .logFile => (path? value).map fun path => { settings with logFile := some path }

/-- Take one entry of a table into account. -/
def applyEntry (origin : String) (settings : Settings) (entry : String × Value) :
    Except Problem Settings :=
  match Field.ofKey? entry.1, entry.2 with
  | none, _ => .ok settings
  | some _, .null => .ok settings
  | some field, value =>
    match settings.set? field value with
    | some changed => .ok changed
    | none => .error (.misfit field value origin)

/-- Change settings by the entries of a table, in order. -/
def override (settings : Settings) (table : Table) (origin : String) : Except Problem Settings :=
  table.foldlM (applyEntry origin) settings

/-- The origin of a table that names no other. -/
def defaultOrigin : String := "configuration"

end Settings
end TagLens
