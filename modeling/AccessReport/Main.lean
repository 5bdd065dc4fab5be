import AccessReport.Command.Error
import AccessReport.Command.Run
import AccessReport.Unified.Uid
/-!
# The program

Reads its arguments, answers the questions of the command from the files, the environment and the
standard input, and writes what the command ends with. Everything that is decided is decided
elsewhere, except for the number of a fault.

Results:
* `faultNumber_neg`: the sign of a number does not matter.
-/
namespace AccessReport

/-- The number of a fault, which some systems report with its sign turned. -/
def faultNumber (code : UInt32) : Nat :=
  if code.toNat < 0x80000000 then code.toNat else 0x100000000 - code.toNat

theorem faultNumber_neg (code : UInt32) : faultNumber (-code) = faultNumber code := by
  have hlt : code.toNat < 0x100000000 := code.toNat_lt
  have hneg : (-code).toNat = (0x100000000 - code.toNat) % 0x100000000 := code.toNat_neg
  unfold faultNumber
  rw [hneg]
  split <;> split <;> omega

/-- The fault that the system reports. -/
def FileFault.ofSystem (error : IO.Error) : FileFault :=
  match error with
  | .noFileOrDirectory _ _ _ => .notFound
  | .permissionDenied _ _ _ => .denied
  | .alreadyExists _ _ _ => .alreadyExists
  | .inappropriateType _ code words | .noSuchThing _ code words
  | .invalidArgument _ code words | .resourceExhausted _ code words
  | .otherError code words | .unsupportedOperation code words
  | .unsatisfiedConstraints code words | .resourceBusy code words =>
    .ofCode (faultNumber code) words
  | _ => .other 5 "Input/output error"

/-- An action with the fault of the system as a value. -/
def attempted {α : Type} (action : IO α) : IO (Except FileFault α) := do
  match ← action.toBaseIO with
  | .ok value => pure (.ok value)
  | .error error => pure (.error (.ofSystem error))

/-- Shows an event if it is urgent enough. -/
def show? (line : CommandLine) (event : Event) : IO Unit := do
  let shown := match event.level with
    | .debug => line.debug
    | .info => line.debug || line.verbose
  if shown then IO.eprintln event.text

/-- Everything on the standard input. -/
def readInput : IO String := do (← IO.getStdin).readToEnd

/-- Answers the questions of an inquiry as they come. -/
def Inquiry.perform {ε α : Type} (line : CommandLine) : Inquiry ε α → IO (Except ε α)
  | done value => pure (.ok value)
  | failed error => pure (.error error)
  | told event next => do
    show? line event
    next.perform line
  | askRead path next => do (next (← attempted (IO.FS.readFile path))).perform line
  | askCanonical path next => do
    (next (← attempted do pure (← IO.FS.realPath path).toString)).perform line
  | askValue name next => do (next (← IO.getEnv name)).perform line
  | askInput next => do (next (← attempted readInput)).perform line

/-- Prints or writes what a command ends with. -/
def Output.perform (line : CommandLine) (output : Output) : IO (Except CommandError Unit) := do
  match output with
  | print text =>
    IO.print text
    pure (.ok ())
  | file path text =>
    let prepared ← match directory? path with
      | some directory => do
        pure ((← attempted (IO.FS.createDirAll directory)).mapError
          (.directoryUncreatable directory))
      | none => pure (.ok ())
    match prepared with
    | .error error => pure (.error error)
    | .ok () => match ← attempted (IO.FS.writeFile path text) with
      | .error cause => pure (.error (.unwritable path cause))
      | .ok () =>
        show? line (.wrote path)
        pure (.ok ())

/-- Runs a command line; gives the exit code. -/
def CommandLine.perform (line : CommandLine) : IO UInt32 := do
  let seed : IO UInt64 := do pure (← IO.getRandomBytes 8).toUInt64LE!
  let uids := Uid.supply (← seed) (← seed)
  let fail (error : CommandError) : IO UInt32 := do
    IO.eprintln (ErrorText.ofChain error.message error.causes)
    pure 1
  match ← (line.run uids).perform line with
  | .error error => fail error
  | .ok (exitCode, output) => match ← output.perform line with
    | .error error => fail error
    | .ok () => pure exitCode.toUInt32

/-- What is said about arguments that lead to no command. -/
def usage : String :=
  "Usage: a11ylens [--config PATH] [--no-default-rules] [-v] [--debug] COMMAND\n\nCommands: "
    ++ ", ".intercalate CommandLine.commandNames

end AccessReport

open AccessReport in
def main (arguments : List String) : IO UInt32 := do
  match CommandLine.ofArguments arguments with
  | .ok line => line.perform
  | .error .help => do
    IO.println usage
    pure 0
  | .error .fault => do
    IO.eprintln usage
    pure 2
