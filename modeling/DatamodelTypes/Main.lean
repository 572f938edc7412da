/-
DatamodelTypes.Main — the program.

It gives `Cli.runWith` access to the files of the system and shows the
outcome.
-/
import DatamodelTypes.Cli.Run

namespace DatamodelTypes.Cli

/-- What an error of the system says about a file. Some calls report the
number of an error and some its negative. -/
def faultOfError (error : IO.Error) : FileFault :=
  let ofNumber (number : UInt32) : FileFault :=
    if number = 6 ∨ number = -6 then .noDevice
    else if number = 20 ∨ number = -20 then .notDirectory
    else if number = 21 ∨ number = -21 then .isDirectory
    else if number = 28 ∨ number = -28 then .noRoom
    else if number = 36 ∨ number = -36 then .nameTooLong
    else .refusedBySystem (toString error)
  match error with
  | .noFileOrDirectory _ _ _ => .missing
  | .inappropriateType _ number _ => ofNumber number
  | .invalidArgument _ number _ => ofNumber number
  | .noSuchThing _ number _ => ofNumber number
  | .resourceExhausted _ number _ => ofNumber number
  | _ => .refusedBySystem (toString error)

/-- A result with the errors of the system as values. -/
def withFault {α : Type} (action : IO α) : IO (Except FileFault α) := do
  try
    return .ok (← action)
  catch fault =>
    return .error (faultOfError fault)

/-- Access to the files of the system. -/
def systemAccess : Access IO where
  readStdin := do
    let stdin ← IO.getStdin
    stdin.readBinToEnd
  readFile path := withFault (IO.FS.readBinFile path)
  writeFile path content := withFault do
    let handle ← IO.FS.Handle.mk path .write
    handle.write content
    handle.flush

end DatamodelTypes.Cli

open DatamodelTypes.Cli in
/-- Runs the command line on the files of the system. -/
def main (arguments : List String) : IO UInt32 := do
  let logSetting ← IO.getEnv "RUST_LOG"
  let outcome ← runWith systemAccess logSetting arguments
  for line in outcome.log do
    IO.eprintln line
  IO.print outcome.stdout
  if let some text := outcome.errorText then
    IO.eprint text
  return outcome.exitCode.toUInt32
