/-
DatamodelTypes.Cli.Arguments — what a command line asks for.

Arguments are read from left to right and the first thing that settles
the matter wins: a request for help or the version, or a fault. Only at
the end can an option be found missing.
-/
import DatamodelTypes.Datamodel
import DatamodelTypes.Decimal

namespace DatamodelTypes.Cli

/-! ## 1. Settings -/

/-- The settings of a conversion. -/
structure Settings where
  input : String
  output : String
  indentation : Nat
  verbose : Bool
  deriving DecidableEq, Repr

/-- What a command line can ask for. -/
inductive Command where
  | convert (settings : Settings)
  | help
  | version
  deriving DecidableEq, Repr

/-- The options that take a value. -/
inductive ValueOption where
  | input
  | output
  | indentation
  deriving DecidableEq, Repr

/-- The name of an option behind two dashes. -/
def ValueOption.name : ValueOption → String
  | .input => "input"
  | .output => "output"
  | .indentation => "indentation"

/-- Why a command line asks for nothing that can be done. -/
inductive UsageFault where
  | unexpectedArgument (argument : String)
  | missingValue (option : ValueOption)
  | invalidValue (option : ValueOption) (value : String)
  | unexpectedValue (flag : String)
  | repeated (name : String)
  | missingOption (option : ValueOption)
  deriving DecidableEq, Repr

/-- The wording of a fault. -/
def UsageFault.message : UsageFault → String
  | .unexpectedArgument argument => "unexpected argument '" ++ argument ++ "' found"
  | .missingValue option => "a value is required for '--" ++ option.name ++ "' but none was supplied"
  | .invalidValue option value =>
    "invalid value '" ++ value ++ "' for '--" ++ option.name ++ "'"
  | .unexpectedValue flag => "unexpected value for '--" ++ flag ++ "' found"
  | .repeated name => "the argument '--" ++ name ++ "' cannot be used multiple times"
  | .missingOption option => "the argument '--" ++ option.name ++ "' was not provided"

/-! ## 2. Collecting options -/

/-- The options given so far. -/
structure Given where
  input : Option String := none
  output : Option String := none
  indentation : Option Nat := none
  verbose : Bool := false
  deriving DecidableEq, Repr

/-- A number from 1 to 65535. -/
def indentationOfText? (text : String) : Option Nat := do
  let number ← Decimal.natOfText? text
  if 1 ≤ number ∧ number ≤ 65535 then some number else none

namespace Given

/-- One more option with its value. -/
def set (given : Given) (option : ValueOption) (value : String) : Except UsageFault Given :=
  match option with
  | .input =>
    if given.input.isSome then .error (.repeated option.name)
    else .ok { given with input := some value }
  | .output =>
    if given.output.isSome then .error (.repeated option.name)
    else if value = "" then .error (.invalidValue option value)
    else .ok { given with output := some value }
  | .indentation =>
    if given.indentation.isSome then .error (.repeated option.name)
    else
      match indentationOfText? value with
      | some number => .ok { given with indentation := some number }
      | none => .error (.invalidValue option value)

/-- The flag for verbose logging. -/
def setVerbose (given : Given) : Except UsageFault Given :=
  if given.verbose then .error (.repeated "verbose") else .ok { given with verbose := true }

/-- The command of a command line that has ended. -/
def finish (given : Given) : Except UsageFault Command :=
  match given.input, given.output with
  | some input, some output =>
    .ok (.convert {
      input, output
      indentation := given.indentation.getD defaultIndentation
      verbose := given.verbose })
  | none, _ => .error (.missingOption .input)
  | some _, none => .error (.missingOption .output)

end Given

/-! ## 3. Single arguments -/

/-- What an argument leads to. -/
inductive Step where
  /-- The next argument is read with these options given. -/
  | proceed (given : Given)
  /-- The next argument is the value of an option, the others given. -/
  | needsValue (given : Given) (option : ValueOption)
  /-- The rest of the command line does not matter. -/
  | settle (command : Command)
  deriving DecidableEq, Repr

/-- The option of a letter behind one dash. -/
def shortOption? : Char → Option ValueOption
  | 'i' => some .input
  | 'o' => some .output
  | 'n' => some .indentation
  | _ => none

/-- The option of a name behind two dashes. -/
def longOption? (name : String) : Option ValueOption :=
  if name = "input" then some .input
  else if name = "output" then some .output
  else if name = "indentation" then some .indentation
  else none

/-- An equals sign in front of a value that is attached to a letter is no
part of the value. -/
def attachedValue : List Char → String
  | '=' :: value => String.ofList value
  | value => String.ofList value

/-- The letters behind one dash. The first letter of an option that takes
a value ends them: what follows it is the value. -/
def stepShort (given : Given) : List Char → Except UsageFault Step
  | [] => .ok (.proceed given)
  | 'v' :: letters => do
    let given ← given.setVerbose
    stepShort given letters
  | 'h' :: _ => .ok (.settle .help)
  | 'V' :: _ => .ok (.settle .version)
  | letter :: rest =>
    match shortOption? letter with
    | some option =>
      if rest = [] then .ok (.needsValue given option)
      else do
        let given ← given.set option (attachedValue rest)
        return .proceed given
    | none => .error (.unexpectedArgument ("-" ++ letter.toString))

/-- A name behind two dashes, without a value attached. -/
def stepName (given : Given) (name : String) : Except UsageFault Step :=
  match longOption? name with
  | some option => .ok (.needsValue given option)
  | none =>
    if name = "verbose" then do
      let given ← given.setVerbose
      return .proceed given
    else if name = "help" then .ok (.settle .help)
    else if name = "version" then .ok (.settle .version)
    else .error (.unexpectedArgument ("--" ++ name))

/-- A name behind two dashes, with a value attached. -/
def stepNameValue (given : Given) (name value : String) : Except UsageFault Step :=
  match longOption? name with
  | some option => do
    let given ← given.set option value
    return .proceed given
  | none =>
    if name = "verbose" ∨ name = "help" ∨ name = "version" then .error (.unexpectedValue name)
    else .error (.unexpectedArgument ("--" ++ name))

/-- What stands behind two dashes. -/
def stepLong (given : Given) (body : List Char) : Except UsageFault Step :=
  let name := String.ofList (body.takeWhile (· ≠ '='))
  match body.dropWhile (· ≠ '=') with
  | _ :: value => stepNameValue given name (String.ofList value)
  | [] => stepName given name

/-- An argument that is no value of an option. -/
def step (given : Given) (argument : String) : Except UsageFault Step :=
  match argument.toList with
  | '-' :: '-' :: body => stepLong given body
  | '-' :: letter :: letters => stepShort given (letter :: letters)
  | _ => .error (.unexpectedArgument argument)

/-! ## 4. Command lines -/

/-- Whether an argument of its own can be the value of an option: it must
not look like an option itself. -/
def isSeparateValue (argument : String) : Bool :=
  argument = "-" || argument.toList.head? != some '-'

/-- Reads a command line, given the options in front of it. Two dashes
alone end the options, and nothing may follow. -/
def parseFrom (given : Given) : List String → Except UsageFault Command
  | [] => given.finish
  | argument :: rest =>
    if argument = "--" then
      match rest with
      | [] => given.finish
      | surplus :: _ => .error (.unexpectedArgument surplus)
    else
      match step given argument with
      | .error fault => .error fault
      | .ok (.settle command) => .ok command
      | .ok (.proceed given) => parseFrom given rest
      | .ok (.needsValue given option) =>
        match rest with
        | [] => .error (.missingValue option)
        | value :: rest =>
          if isSeparateValue value then
            match given.set option value with
            | .error fault => .error fault
            | .ok given => parseFrom given rest
          else .error (.missingValue option)

/-- Reads a command line. -/
def Command.parse (arguments : List String) : Except UsageFault Command :=
  parseFrom {} arguments

/-! ## 5. Texts -/

/-- What a request for the version prints. -/
def versionText : String := "prisma-to-python 0.1.0\n"

/-- What a request for help prints. -/
def helpText : String :=
  "Convert a Prisma DMMF document to Python type definitions\n" ++
  "\n" ++
  "Usage: prisma-to-python [OPTIONS] --input <PATH> --output <PATH>\n" ++
  "\n" ++
  "Options:\n" ++
  "  -i, --input <PATH>          Input Prisma DMMF JSON file (use '-' for stdin)\n" ++
  "  -o, --output <PATH>         Output Python file path\n" ++
  "  -n, --indentation <NUMBER>  Output indentation size [default: 4]\n" ++
  "  -v, --verbose               Enable debug logging\n" ++
  "  -h, --help                  Print help\n" ++
  "  -V, --version               Print version\n"

end DatamodelTypes.Cli
