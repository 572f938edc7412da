/-
DatamodelTypes.Cli.Log — what a run says about its progress.

A run reports the stages that it reached as events. An event has a level,
a target (the part of the program that it is about) and named fields; a
filter may choose by each of them.
-/

namespace DatamodelTypes.Cli

/-- How urgent an event is. -/
inductive Level where
  | error
  | warn
  | info
  | debug
  | trace
  deriving DecidableEq, Repr

/-- The rank of a level: the more detail, the higher. -/
def Level.rank : Level → Nat
  | .error => 1
  | .warn => 2
  | .info => 3
  | .debug => 4
  | .trace => 5

/-- The name of a level in a line of the log. -/
def Level.name : Level → String
  | .error => "ERROR"
  | .warn => "WARN"
  | .info => "INFO"
  | .debug => "DEBUG"
  | .trace => "TRACE"

/-- A stage of a run that was reached. -/
inductive Event where
  /-- The input, of so many bytes, was read. -/
  | readInput (input : String) (bytes : Nat)
  /-- The datamodel was converted. -/
  | converted (enums models types importModules : Nat)
  /-- The output was written. -/
  | wrote (output : String)
  deriving DecidableEq, Repr

namespace Event

/-- How urgent an event is. -/
def level : Event → Level
  | .readInput _ _ => .debug
  | .converted _ _ _ _ => .debug
  | .wrote _ => .info

/-- The part of the program that an event is about. -/
def target : Event → String
  | .readInput _ _ => "prisma_to_python"
  | .converted _ _ _ _ => "prisma_to_python::converter"
  | .wrote _ => "prisma_to_python"

/-- What an event says in words. -/
def message : Event → String
  | .readInput _ _ => "read input"
  | .converted _ _ _ _ => "converted schema"
  | .wrote _ => "wrote python types"

/-- The values of an event by name, in the order they are shown in. -/
def values : Event → List (String × String)
  | .readInput input bytes => [("input", input), ("bytes", toString bytes)]
  | .converted enums models types importModules =>
    [("enums", toString enums), ("models", toString models), ("types", toString types),
      ("import_modules", toString importModules)]
  | .wrote output => [("output", output)]

/-- The names of an event's fields: its message is a field as well. -/
def fields (event : Event) : List String :=
  "message" :: event.values.map (·.1)

/-- The line of an event, without its time. -/
def line (event : Event) : String :=
  event.level.name ++ " " ++ event.target ++ ": " ++ event.message ++
    String.join (event.values.map fun (name, value) => " " ++ name ++ "=" ++ value)

end Event

end DatamodelTypes.Cli
