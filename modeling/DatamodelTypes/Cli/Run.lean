/-
DatamodelTypes.Cli.Run — one run of the command line.

A run reads its input, converts it and writes its output; the first stage
that fails ends it. The stages are written once, for any way to get at
files: a run in a `FileSystem` is a function of its surroundings, and the
program runs the same stages on the files of the system.
-/
import DatamodelTypes.Cli.Arguments
import DatamodelTypes.Cli.FileSystem
import DatamodelTypes.Cli.Filter
import DatamodelTypes.Conversion

namespace DatamodelTypes.Cli

/-! ## 1. Outcomes -/

/-- Why a run fails. -/
inductive RunFailure where
  | file (fault : FileFault)
  | notText
  | conversion (failure : Failure)
  deriving DecidableEq, Repr

/-- The wording of a failure. -/
def RunFailure.message : RunFailure → String
  | .file fault => fault.message
  | .notText => "stream did not contain valid UTF-8"
  | .conversion failure => failure.message

/-- How far a conversion got: the stages that it reached, and what kept it
from the next. -/
structure Progress where
  events : List Event
  failure : Option RunFailure
  deriving DecidableEq, Repr

/-- What comes of a command line. -/
inductive Outcome where
  | refused (fault : UsageFault)
  | printed (text : String)
  /-- The log could not be set up. -/
  | aborted (fault : Text.SliceFault)
  | ran (shown : List Event) (failure : Option RunFailure)
  deriving DecidableEq, Repr

namespace Outcome

/-- The exit code: 2 for a command line that asks for nothing, 1 for a run
that failed, 101 for one that did not get to its first stage. -/
def exitCode : Outcome → Nat
  | .refused _ => 2
  | .printed _ => 0
  | .aborted _ => 101
  | .ran _ none => 0
  | .ran _ (some _) => 1

/-- What is written to standard output. -/
def stdout : Outcome → String
  | .printed text => text
  | _ => ""

/-- The lines of the log. Where it could not be set up, the reason stands in
its place, without the calls that led there. -/
def log : Outcome → List String
  | .ran shown _ => shown.map (·.line)
  | .aborted fault => [fault.message]
  | _ => []

/-- What is said about an error. -/
def errorText : Outcome → Option String
  | .refused fault => some ("error: " ++ fault.message ++ "\n")
  | .ran _ (some failure) => some ("error: " ++ failure.message ++ "\n")
  | _ => none

end Outcome

/-! ## 2. Stages -/

/-- Ways to get at the input and output of a run. -/
structure Access (m : Type → Type) where
  readStdin : m ByteArray
  readFile : String → m (Except FileFault ByteArray)
  writeFile : String → ByteArray → m (Except FileFault Unit)

/-- Bytes as text. -/
def textOfBytes (bytes : ByteArray) : Except RunFailure String :=
  match String.fromUTF8? bytes with
  | some text => .ok text
  | none => .error .notText

/-- The input text. A dash stands for standard input. -/
def readInput {m : Type → Type} [Monad m] (access : Access m) (input : String) :
    m (Except RunFailure String) := do
  if input = "-" then return textOfBytes (← access.readStdin)
  else
    match ← access.readFile input with
    | .ok bytes => return textOfBytes bytes
    | .error fault => return .error (.file fault)

/-- The page of a text, and what the log says about it. -/
def pageOfText (text : String) : Except Failure (Event × Page) := do
  let datamodel ← Datamodel.parse text
  let page ← Page.ofDatamodel datamodel
  return (.converted datamodel.enums.length datamodel.models.length datamodel.types.length
    page.imports.size, page)

/-- A conversion from file to file. -/
def convertFile {m : Type → Type} [Monad m] (access : Access m) (settings : Settings) :
    m Progress := do
  match ← readInput access settings.input with
  | .error failure => return ⟨[], some failure⟩
  | .ok text =>
    let readEvent := Event.readInput settings.input text.utf8ByteSize
    match pageOfText text with
    | .error failure => return ⟨[readEvent], some (.conversion failure)⟩
    | .ok (converted, page) =>
      let output := page.render ⟨settings.indentation⟩
      match ← access.writeFile settings.output output.toUTF8 with
      | .error fault => return ⟨[readEvent, converted], some (.file fault)⟩
      | .ok () => return ⟨[readEvent, converted, .wrote settings.output], none⟩

/-- What a command leads to, given the setting of the log. -/
def perform {m : Type → Type} [Monad m] (access : Access m) (logSetting : Option String) :
    Command → m Outcome
  | .help => return .printed helpText
  | .version => return .printed versionText
  | .convert settings => do
    match Filter.inForce logSetting settings.verbose with
    | .error fault => return .aborted fault
    | .ok filter =>
      let progress ← convertFile access settings
      return .ran (progress.events.filter filter.shows) progress.failure

/-- What a command line leads to. -/
def runWith {m : Type → Type} [Monad m] (access : Access m) (logSetting : Option String)
    (arguments : List String) : m Outcome :=
  match Command.parse arguments with
  | .ok command => perform access logSetting command
  | .error fault => return .refused fault

/-! ## 3. Runs in a file system -/

/-- Access to a file system that is carried along. -/
def fileSystemAccess : Access (StateM FileSystem) where
  readStdin := return (← get).input
  readFile path := return (← get).readFile path
  writeFile path content := do
    match (← get).writeFile path content with
    | .ok files =>
      set files
      return .ok ()
    | .error fault => return .error fault

/-- A run in a file system: what comes of it, and the files afterwards. -/
def run (arguments : List String) (files : FileSystem) (logSetting : Option String) :
    Outcome × FileSystem :=
  (runWith fileSystemAccess logSetting arguments).run files

/-- What standard output shows of a run: what was written to it as a file,
and what the outcome has to print. -/
def shownOutput (outcome : Outcome) (files : FileSystem) : ByteArray :=
  files.output ++ outcome.stdout.toUTF8

end DatamodelTypes.Cli
