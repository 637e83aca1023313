import TagLens.Text.Digit
import TagLens.Text.Quoted

/-!
# Command lines

A command line is read against a `Grammar`: its options, which take no value or one, and what
its plain arguments are for. Arguments are classified first, all of them, and then consumed
from left to right. An option may be written in full, shortened to an unambiguous beginning,
with its value behind an equals sign, or, if it is short, together with other short options.
A double hyphen behind the equals sign stands for no value: the option is there, and blank.
After an argument that is a double hyphen everything is plain. Arguments that nothing asks for
are collected and left to the caller.

Reading stops early for help, for the version, and for a usage error.
-/

namespace TagLens.Command

/-- What the value of an option has to be. -/
inductive ValueKind where
  | any
  | choice (allowed : List String)
  | integer
  deriving DecidableEq, Repr

/-- What an option does. -/
inductive OptionKind where
  | help
  | version
  | toggle
  | value (kind : ValueKind)
  deriving DecidableEq, Repr

/-- An option with all its spellings. -/
structure OptionSpec where
  names : List String
  kind : OptionKind
  deriving DecidableEq, Repr

/-- The spellings of an option in a message. -/
def OptionSpec.label (option : OptionSpec) : String := "/".intercalate option.names

/-- Does the option take a value? -/
def OptionSpec.takesValue (option : OptionSpec) : Bool :=
  match option.kind with
  | .value _ => true
  | _ => false

/-- What plain arguments are for. -/
inductive Operands where
  | none
  /-- At least one operand. -/
  | many (name : String)
  /-- A command and everything that follows it. -/
  | command (name : String) (choices : List String)
  deriving DecidableEq, Repr

/-- A grammar of command lines. -/
structure Grammar where
  program : String
  usage : String
  help : String
  options : List OptionSpec
  operands : Operands

/-- Why reading stops early. -/
inductive Stop where
  | help (text : String)
  | version
  | usageError (usage program message : String)
  deriving DecidableEq, Repr

/-- Something that a command line sets. -/
inductive Setting where
  | toggle (name : String)
  /-- An option that takes a value and was given none. -/
  | blank (name : String)
  | text (name value : String)
  | number (name : String) (value : Int)
  deriving DecidableEq, Repr

/-- What a command line says. -/
structure Reading where
  settings : List Setting := []
  /-- The operands, or the command with everything that follows it. -/
  operands : Option (List String) := none
  /-- Arguments that nothing asks for. -/
  extras : List String := []
  deriving DecidableEq, Repr

namespace Grammar

/-- Stop with a usage error. -/
def fail {α : Type} (grammar : Grammar) (message : String) : Except Stop α :=
  .error (.usageError grammar.usage grammar.program message)

/-- Stop with a usage error about one argument. -/
def failAt {α : Type} (grammar : Grammar) (label message : String) : Except Stop α :=
  grammar.fail ("argument " ++ label ++ ": " ++ message)

/-! ### Classification -/

/-- An option as it stands on the command line: the option, if there is one of that name, its
spelling, and the value written together with it. -/
structure Mention where
  option : Option OptionSpec
  spelling : String
  value : Option Text

/-- The class of an argument. -/
inductive Class where
  | plain
  /-- The double hyphen after which everything is plain. -/
  | separator
  | option (mention : Mention)

/-- All spellings, in order, with their options. -/
def spellings (grammar : Grammar) : List (String × OptionSpec) :=
  grammar.options.flatMap fun option => option.names.map fun name => (name, option)

/-- The text before the first equals sign and, if there is one, the text after it. -/
def cutEquals (text : Text) : Text × Option Text :=
  (text.takeWhile (· != '='),
    if List.elem '=' text then some ((text.dropWhile (· != '=')).drop 1) else none)

/-- The options whose spelling an argument may shorten. A short option may have more text
right behind it. -/
def candidates (grammar : Grammar) (argument : Text) : List Mention :=
  match argument with
  | '-' :: '-' :: _ =>
    let (name, value) := cutEquals argument
    (grammar.spellings.filter fun entry => name.isPrefixOf entry.1.toList).map fun entry =>
      ⟨some entry.2, entry.1, value⟩
  | _ =>
    grammar.spellings.filterMap fun entry =>
      if entry.1.toList == argument.take 2 then
        some ⟨some entry.2, entry.1, some (argument.drop 2)⟩
      else if argument.isPrefixOf entry.1.toList then some ⟨some entry.2, entry.1, none⟩
      else none

/-- A hyphen and a number, whole or with a point; one line feed at the very end is
overlooked. -/
def looksNegative (argument : Text) : Bool :=
  match argument with
  | '-' :: rest =>
    let number := if rest.getLast? = some '\n' then rest.dropLast else rest
    let whole := number.takeWhile Text.isDecimalDigit
    match number.drop whole.length with
    | [] => !whole.isEmpty
    | '.' :: places => !places.isEmpty && places.all Text.isDecimalDigit
    | _ => false
  | _ => false

/-- Classify one argument in front of a double hyphen. -/
def classify (grammar : Grammar) (argument : String) : Except Stop Class :=
  let text := argument.toList
  if text.head? != some '-' then .ok .plain
  else
    match grammar.spellings.lookup argument with
    | some option => .ok (.option ⟨some option, argument, none⟩)
    | none =>
      let (name, value) := cutEquals text
      let exact := grammar.spellings.lookup (String.ofList name)
      match text.length, exact, value with
      | 1, _, _ => .ok .plain
      | _, some option, some _ => .ok (.option ⟨some option, String.ofList name, value⟩)
      | _, _, _ =>
        match grammar.candidates text with
        | [mention] => .ok (.option mention)
        | [] =>
          if looksNegative text || List.elem ' ' text then .ok .plain
          else .ok (.option ⟨none, argument, none⟩)
        | many =>
          grammar.fail ("ambiguous option: " ++ argument ++ " could match "
            ++ ", ".intercalate (many.map (·.spelling)))

/-- Classify all arguments. -/
def classifyAll (grammar : Grammar) : List String → Except Stop (List (String × Class))
  | [] => .ok []
  | argument :: rest =>
    if argument == "--" then
      .ok ((argument, .separator) :: rest.map fun plain => (plain, .plain))
    else do
      let kind ← grammar.classify argument
      let more ← grammar.classifyAll rest
      .ok ((argument, kind) :: more)

/-! ### Options -/

/-- An option that was found, with its value if it takes one and was given one. -/
abbrev Use := OptionSpec × Option String

/-- Options found in one argument: those that are complete, and one that may still take the
next argument. -/
structure Found where
  complete : List Use := []
  last : Option OptionSpec := none

/-- The value that a text written together with an option stands for; a double hyphen stands
for none. -/
def attachedValue? (text : Text) : Option String :=
  if text == ['-', '-'] then none else some (String.ofList text)

/-- An option takes the text written together with it, or refuses it. -/
def takeAttached (grammar : Grammar) (option : OptionSpec) (value : Text) : Except Stop Found :=
  if option.takesValue then .ok { complete := [(option, attachedValue? value)] }
  else
    grammar.failAt option.label
      ("ignored explicit argument " ++ Text.quotedString (String.ofList value))

/-- Read a short option and the text written together with it. If the option takes no value,
the text names further short options, one a character; at the first character that names none
the option in front of it refuses what is left. -/
def readCluster (grammar : Grammar) (option : OptionSpec) : Text → Except Stop Found
  | [] => grammar.takeAttached option []
  | c :: rest =>
    if option.takesValue then grammar.takeAttached option (c :: rest)
    else
      match grammar.spellings.lookup (String.ofList ['-', c]) with
      | none => grammar.takeAttached option (c :: rest)
      | some other => do
        let found ←
          if rest.isEmpty then .ok { last := some other } else readCluster grammar other rest
        .ok { found with complete := (option, none) :: found.complete }

/-- Read an option with the text written together with it. -/
def readMention (grammar : Grammar) (option : OptionSpec) (mention : Mention) :
    Except Stop Found :=
  match mention.value with
  | none => .ok { last := some option }
  | some value =>
    if (mention.spelling.toList.drop 1).head? == some '-' then grammar.takeAttached option value
    else grammar.readCluster option value

/-- What the use of an option sets. -/
def apply (grammar : Grammar) (use : Use) : Except Stop Setting :=
  let name := (use.1.names.getLast?).getD ""
  match use.1.kind, use.2 with
  | .help, _ => .error (.help grammar.help)
  | .version, _ => .error .version
  | .toggle, _ => .ok (.toggle name)
  | .value _, none => .ok (.blank name)
  | .value .any, some text => .ok (.text name text)
  | .value (.choice allowed), some text =>
    if allowed.elem text then .ok (.text name text)
    else
      grammar.failAt use.1.label ("invalid choice: " ++ Text.quotedString text ++ " (choose from "
        ++ ", ".intercalate (allowed.map Text.quotedString) ++ ")")
  | .value .integer, some text =>
    match Text.parseInteger? text.toList with
    | some value => .ok (.number name value)
    | none => grammar.failAt use.1.label ("invalid int value: " ++ Text.quotedString text)

/-- Is the argument in the way of a run of plain ones? -/
def isOption : String × Class → Bool
  | (_, .option _) => true
  | _ => false

/-- Is the argument plain? -/
def isPlain : String × Class → Bool
  | (_, .plain) => true
  | _ => false

/-- Give an option without a value of its own the next argument, if it takes one. -/
def withNext (grammar : Grammar) (option : OptionSpec) (rest : List (String × Class)) :
    Except Stop (Use × List (String × Class)) :=
  if option.takesValue then
    match rest with
    | (argument, .plain) :: after => .ok ((option, some argument), after)
    | _ => grammar.failAt option.label "expected one argument"
  else .ok ((option, none), rest)

/-! ### Reading -/

/-- Drop the first double hyphen of the operands. -/
def dropSeparator : List (String × Class) → List String
  | [] => []
  | (_, .separator) :: rest => rest.map (·.1)
  | (argument, _) :: rest => argument :: dropSeparator rest

/-- Consume classified arguments from left to right. -/
def consume (grammar : Grammar) (fuel : Nat) (reading : Reading)
    (arguments : List (String × Class)) : Except Stop Reading :=
  match fuel with
  | 0 => .ok reading
  | fuel + 1 =>
    match arguments with
    | [] => .ok reading
    | (argument, .option mention) :: rest =>
      match mention.option with
      | none => consume grammar fuel { reading with extras := reading.extras ++ [argument] } rest
      | some option => do
        let found ← grammar.readMention option mention
        let (uses, rest) ← match found.last with
          | none => .ok (found.complete, rest)
          | some last => do
            let (use, rest) ← grammar.withNext last rest
            .ok (found.complete ++ [use], rest)
        let settings ← uses.mapM grammar.apply
        consume grammar fuel { reading with settings := reading.settings ++ settings } rest
    | arguments =>
      let run := arguments.takeWhile fun entry => !isOption entry
      let rest := arguments.drop run.length
      match grammar.operands, reading.operands with
      | .many _, none =>
        if run.any isPlain then
          consume grammar fuel { reading with operands := some (dropSeparator run) } rest
        else consume grammar fuel { reading with extras := reading.extras ++ run.map (·.1) } rest
      | .command _ _, none =>
        if run.any isPlain then .ok { reading with operands := some (arguments.map (·.1)) }
        else consume grammar fuel { reading with extras := reading.extras ++ run.map (·.1) } rest
      | _, _ => consume grammar fuel { reading with extras := reading.extras ++ run.map (·.1) } rest

/-- Operands that have to be there and those that are no command are usage errors. -/
def checkOperands (grammar : Grammar) (reading : Reading) : Except Stop Reading :=
  match grammar.operands, reading.operands with
  | .many name, none => grammar.fail ("the following arguments are required: " ++ name)
  | .command name choices, some (command :: _) =>
    if choices.elem command then .ok reading
    else
      grammar.failAt name ("invalid choice: " ++ Text.quotedString command ++ " (choose from "
        ++ ", ".intercalate (choices.map Text.quotedString) ++ ")")
  | _, _ => .ok reading

/-- Read a command line. -/
def read (grammar : Grammar) (arguments : List String) : Except Stop Reading := do
  let classified ← grammar.classifyAll arguments
  grammar.checkOperands (← grammar.consume (arguments.length + 1) {} classified)

/-- Arguments that nothing asked for are a usage error in the end. -/
def refuseExtras (grammar : Grammar) (extras : List String) : Except Stop Unit :=
  if extras.isEmpty then .ok ()
  else grammar.fail ("unrecognized arguments: " ++ " ".intercalate extras)

end Grammar

/-! ### Looking at a reading -/

namespace Reading

/-- Is an option there? -/
def isSet (reading : Reading) (name : String) : Bool :=
  reading.settings.any fun
    | .toggle other => other == name
    | _ => false

/-- The text given last for an option, if the option is there; none if it is blank. -/
def text? (reading : Reading) (name : String) : Option (Option String) :=
  reading.settings.reverse.findSome? fun
    | .text other value => if other == name then some (some value) else none
    | .blank other => if other == name then some none else none
    | _ => none

/-- The number given last for an option, if the option is there; none if it is blank. -/
def number? (reading : Reading) (name : String) : Option (Option Int) :=
  reading.settings.reverse.findSome? fun
    | .number other value => if other == name then some (some value) else none
    | .blank other => if other == name then some none else none
    | _ => none

end Reading
end TagLens.Command
