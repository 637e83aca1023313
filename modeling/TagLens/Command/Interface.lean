import TagLens.Command.Arguments

/-!
# The command line of the program

Two commands: one serves an editor, the other checks files. The options in front of the
command hold for both.
-/

namespace TagLens.Command

/-- The program's name. -/
def programName : String := "rmcxml"

/-- The log levels that can be asked for. -/
def levelNames : List String := ["debug", "error", "info", "warn", "warning"]

/-- The commands. -/
def commandNames : List String := ["lsp", "check"]

/-- The option for help, which every grammar has. -/
def helpOption : OptionSpec := ⟨["-h", "--help"], .help⟩

/-- Lines of text, each of them ended. -/
def textLines (lines : List String) : String := String.join (lines.map (· ++ "\n"))

/-- The usage of the program as a whole. -/
def mainUsage : List String :=
  ["usage: rmcxml [-h] [--version] [--log-level \x7bdebug,error,info,warn,warning\x7d]",
    "              [--workspace WORKSPACE] [-v]",
    "              \x7blsp,check\x7d ..."]

/-- The grammar of the program as a whole. -/
def mainGrammar : Grammar :=
  { program := programName
    usage := textLines mainUsage
    help := textLines <| mainUsage ++
      ["",
        "Language tooling for RMC XML documents",
        "",
        "options:",
        "  -h, --help            show this help message and exit",
        "  --version             show program's version number and exit",
        "  --log-level \x7bdebug,error,info,warn,warning\x7d",
        "                        Logging level (default: from config or",
        "                        RMC_XML_LOG_LEVEL, else info)",
        "  --workspace WORKSPACE",
        "                        Directory holding rmcxml.toml or pyproject.toml",
        "                        (default: current directory)",
        "  -v, --verbose         Show tracebacks on failure",
        "",
        "commands:",
        "  \x7blsp,check\x7d",
        "    lsp                 Start the language server",
        "    check               Validate RMC XML files and print findings"]
    options :=
      [helpOption,
        ⟨["--version"], .version⟩,
        ⟨["--log-level"], .value (.choice levelNames)⟩,
        ⟨["--workspace"], .value .any⟩,
        ⟨["-v", "--verbose"], .toggle⟩]
    operands := .command "command" commandNames }

/-- The usage of the command that serves an editor. -/
def serveUsage : List String :=
  ["usage: rmcxml lsp [-h] [--tcp] [--host HOST] [--port PORT]"]

/-- The grammar of the command that serves an editor. -/
def serveGrammar : Grammar :=
  { program := "rmcxml lsp"
    usage := textLines serveUsage
    help := textLines <| serveUsage ++
      ["",
        "options:",
        "  -h, --help   show this help message and exit",
        "  --tcp        Serve over TCP instead of stdio",
        "  --host HOST  TCP host (default: 127.0.0.1)",
        "  --port PORT  TCP port (default: 2087)"]
    options :=
      [helpOption,
        ⟨["--tcp"], .toggle⟩,
        ⟨["--host"], .value .any⟩,
        ⟨["--port"], .value .integer⟩]
    operands := .none }

/-- The usage of the command that checks files. -/
def checkUsage : List String := ["usage: rmcxml check [-h] files [files ...]"]

/-- The grammar of the command that checks files. -/
def checkGrammar : Grammar :=
  { program := "rmcxml check"
    usage := textLines checkUsage
    help := textLines <| checkUsage ++
      ["",
        "positional arguments:",
        "  files       Files to validate",
        "",
        "options:",
        "  -h, --help  show this help message and exit"]
    options := [helpOption]
    operands := .many "files" }

/-- What a command is asked to do. -/
inductive Task where
  /-- Serve an editor, over TCP or over the standard streams. Host and port may have been left
  blank. -/
  | serve (tcp : Bool) (host : Option String) (port : Option Int)
  | check (files : List String)
  deriving DecidableEq, Repr

/-- A command line that makes sense. -/
structure Invocation where
  logLevel : Option String
  workspace : Option String
  verbose : Bool
  task : Option Task
  deriving DecidableEq, Repr

/-- Read what follows a command: its task, and the arguments that it does not know. -/
def readTask (command : String) (arguments : List String) :
    Except Stop (Task × List String) := do
  if command == "check" then
    let reading ← checkGrammar.read arguments
    .ok (.check (reading.operands.getD []), reading.extras)
  else
    let reading ← serveGrammar.read arguments
    .ok (.serve (reading.isSet "--tcp") ((reading.text? "--host").getD (some "127.0.0.1"))
      ((reading.number? "--port").getD (some 2087)), reading.extras)

/-- Read a whole command line. Arguments that nothing asked for are refused at the end, those
in front of the command first. -/
def readInvocation (arguments : List String) : Except Stop Invocation := do
  let reading ← mainGrammar.read arguments
  let (task, extras) ← match reading.operands with
    | some (command :: rest) => do
      let (task, extras) ← readTask command rest
      .ok (some task, extras)
    | _ => .ok (none, [])
  mainGrammar.refuseExtras (reading.extras ++ extras)
  .ok
    { logLevel := (reading.text? "--log-level").join
      workspace := (reading.text? "--workspace").join
      verbose := reading.isSet "--verbose"
      task }

end TagLens.Command
