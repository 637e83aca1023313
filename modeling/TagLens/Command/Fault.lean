import TagLens.Text.Blank
import TagLens.Text.LowerCase
import TagLens.Text.Quoted
import TagLens.Report.Failure

/-!
# Faults that end a command

Whatever goes wrong in a command ends it with a short report and an exit code. A report names
the fault's code and its hint; with `verbose` a trace follows. Three environment variables have
a say: two ask for the trace, and a third lets the fault pass through unreported.
-/

namespace TagLens.Command

open Report (Failure)

/-- The kinds of faults that commands raise themselves. -/
inductive CommandErrorKind where
  | general
  | settings
  | runtime
  deriving DecidableEq, Repr

/-- The code of a fault that is given no other. -/
def CommandErrorKind.code : CommandErrorKind → String
  | .general => ""
  | .settings => "CLI_CONFIG_ERROR"
  | .runtime => "CLI_RUNTIME_ERROR"

/-- A fault that a command raises itself. -/
structure CommandError where
  kind : CommandErrorKind
  message : String
  /-- The code; a fault can go without one. -/
  code : Option String := some kind.code
  hint : Option String := none
  deriving DecidableEq, Repr

/-- A fault of the surroundings: a bad value, a missing key, a fault of the operating system,
or of a running service. -/
inductive SystemFault where
  | value (message : String)
  | key (name : String)
  | os (message : String)
  | runtime (message : String)
  deriving DecidableEq, Repr

namespace SystemFault

/-- The class under which a fault is reported. -/
def label : SystemFault → String
  | .value _ => "ValueError"
  | .key _ => "KeyError"
  | .os _ => "OSError"
  | .runtime _ => "RuntimeError"

/-- The fault in words; a missing key is quoted. -/
def message : SystemFault → String
  | .key name => Text.quotedString name
  | .value message | .os message | .runtime message => message

end SystemFault

/-- Anything that can end a command. -/
inductive Fault where
  | command (error : CommandError)
  | failure (failure : Failure)
  | system (fault : SystemFault)
  deriving DecidableEq, Repr

/-- The longest trace that is shown in full. -/
def traceLimit : Nat := 4000

/-- A trace without the blank space around it, cut to size. -/
def shownTrace (trace : String) : String :=
  let text := Text.trim trace.toList
  if traceLimit < text.length then String.ofList (text.take (traceLimit - 3)) ++ "..."
  else String.ofList text

/-- The fault in words, without class, code and hint. -/
def Fault.message : Fault → String
  | .command error => error.message
  | .failure reason => reason.message
  | .system inner => inner.message

/-- The report of a fault: what happened, a hint if there is one, and the trace if it is
asked for. -/
def Fault.report (fault : Fault) (trace : Option String) : String :=
  let lines := match fault with
    | .command error =>
      let hint := match error.hint with
        | none | some "" => []
        | some hint => ["Hint: " ++ hint]
      ("Error [" ++ error.code.getD "None" ++ "]: " ++ error.message) :: hint
    | .failure reason => ["Error: " ++ reason.format]
    | .system inner => ["Error: " ++ inner.label ++ ": " ++ inner.message]
  "\n".intercalate (lines ++ (trace.map shownTrace).toList)

/-! ### Flags in the environment -/

/-- Is the variable set to a word for yes, in any case and with blank space around it? -/
def flag (environment : List (String × String)) (name : String) : Bool :=
  match environment.lookup name with
  | none => false
  | some value =>
    let word := Text.lower (Text.trim value.toList)
    word == ['1'] || word == "true".toList || word == "yes".toList || word == "on".toList

/-- Is a trace asked for, on the command line or in the environment? -/
def isVerbose (environment : List (String × String)) (verbose : Bool) : Bool :=
  verbose || flag environment "RMC_XML_VERBOSE" || flag environment "RMC_XML_DEBUG"

/-- Do faults pass through unreported? -/
def passesThrough (environment : List (String × String)) : Bool :=
  flag environment "RMC_XML_RERAISE"

end TagLens.Command
