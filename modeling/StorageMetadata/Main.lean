import StorageMetadata.Command.Arguments
import StorageMetadata.Display.Layout

/-!
# The program

Reads the arguments, the environment and the file, and prints what comes of them.
-/

open StorageMetadata StorageMetadata.Command

/-- How the program is called. -/
def usage : String :=
  "Usage: [-v|--verbose] blob [-u|--url] PATH\n       [-v|--verbose] cors PATH"

/-- The number of a system error, which may come with its sign changed in 32 bits. -/
def systemCode (code : UInt32) : Nat :=
  if code.toNat < 2147483648 then code.toNat else 4294967296 - code.toNat

/-- The fault behind an error of the system. -/
def faultOf : IO.Error → Fault
  | .noFileOrDirectory .. => .missingFile
  | .inappropriateType _ code _ => if systemCode code = 20 then .notDirectory else .isDirectory
  | .invalidArgument _ code _ => if systemCode code = 36 then .nameTooLong else .malformed
  | _ => .unsupported

/-- The octets of a file, or the fault that keeps them from being read. -/
def readOctets (path : String) : IO (Except Fault ByteArray) := do
  try return .ok (← IO.FS.readBinFile path)
  catch e => return .error (faultOf e)

/-- The variables that the program looks at. -/
def readEnvironment : IO (String → Option String) := do
  let host ← IO.getEnv Endpoint.hostVariable
  let project ← IO.getEnv Endpoint.projectVariable
  return fun name =>
    if name = Endpoint.hostVariable then host
    else if name = Endpoint.projectVariable then project
    else none

/-- How many lists and maps of a file may stand within each other. -/
def levels : Nat := 980

/-- Prints what came of a command. -/
def printOutcome (outcome : Outcome) : IO Unit := do
  for n in outcome.notices do
    IO.eprintln n.message
  if let some table := outcome.shown.table? then
    for line in table.lines do
      IO.println line
  outcome.shown.lines.forM IO.println
  outcome.errors.forM IO.eprintln
  if let some f := outcome.crash? then
    IO.eprintln ("The command failed unexpectedly. " ++ f.message)

def main (args : List String) : IO UInt32 := do
  match Line.ofArguments args with
  | .misuse =>
    IO.eprintln usage
    return 2
  | .help =>
    IO.println usage
    return 0
  | .inspect verbose subject path =>
    let found ← readOctets (Path.ofString path).write
    let environment ← readEnvironment
    let around : Surroundings :=
      { read := fun _ => found, environment, console := Display.plainConsole, levels }
    let outcome := run around (.inspect verbose subject path)
    printOutcome outcome
    return UInt32.ofNat outcome.exitCode
