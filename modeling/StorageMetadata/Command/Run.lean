import StorageMetadata.Display.Table
import StorageMetadata.Endpoint
import StorageMetadata.Source.Load

/-!
# What a command does

A command loads the resource at its path, decodes it, and shows the result.  A failure on the way
to the result is reported to the user if the library accounts for it; any other failure, and any
failure of showing, is a crash.

What a command finds around it is left open (`Surroundings`): the files, the variables, what draws
tables and puts out lines, and how many lists and maps of a file may stand within each other.  What
goes to the standard error stream always gets there.
-/

namespace StorageMetadata.Command

open StorageMetadata.Display

/-- What a command shows. -/
inductive Subject where
  /-- The metadata of an object. -/
  | object (withUrl : Bool)
  /-- The cross-origin rules of a bucket. -/
  | rules
  deriving DecidableEq, Repr

/-- What the arguments of the program ask for. -/
inductive Line where
  | misuse
  | help
  | inspect (verbose : Bool) (subject : Subject) (path : String)
  deriving DecidableEq, Repr

/-- What a command finds around it. -/
structure Surroundings where
  /-- The octets at a path, or why there are none. -/
  read : Path → Except Fault ByteArray
  environment : String → Option String
  console : Console
  /-- How many lists and maps of a file may stand within each other. -/
  levels : Nat

/-! ### Showing -/

/-- What was put out: a table that was drawn, and lines for the standard output. -/
structure Shown where
  table? : Option Table := none
  lines : List String := []

/-- What comes of showing something: what was put out, and the failure that ended it, if any. -/
structure Showing where
  shown : Shown := {}
  failure? : Option (Failure Value) := none

/-- Puts out what was made. -/
def putOut {α : Type} (out : α → Except Fault Unit) (made : Result α) : Result α := do
  let a ← made
  match out a with
  | .ok _ => return a
  | .error f => fault f

/-- Shows a table alone. -/
def showTable (console : Console) (table : Result Table) : Showing :=
  match putOut console.draw table with
  | .ok t => { shown := { table? := some t } }
  | .error f => { failure? := some f }

/-- Shows a line alone. -/
def showLine (console : Console) (line : Result String) : Showing :=
  match putOut console.print line with
  | .ok s => { shown := { lines := [s] } }
  | .error f => { failure? := some f }

/-- One after the other, unless the first fails. -/
def Showing.andThen (first second : Showing) : Showing :=
  match first.failure? with
  | some _ => first
  | none => {
      shown := {
        table? := first.shown.table?.or second.shown.table?
        lines := first.shown.lines ++ second.shown.lines }
      failure? := second.failure? }

/-- Shows an object, and after it its address if asked for. -/
def showObject (around : Surroundings) (withUrl : Bool) (o : Object) : Showing :=
  let table := showTable around.console (objectTable around.console o)
  if withUrl then
    table.andThen (showLine around.console
      ((Endpoint.ofEnvironment around.environment).objectUrl o.bucket o.name))
  else table

/-- Shows the rules of a bucket, or tells that there are none. -/
def showRules (around : Surroundings) (b : Bucket) : Showing :=
  match b.cors with
  | none | some [] => showLine around.console do
    return "No CORS rules configured for bucket '" ++ (← b.name.shown) ++ "'."
  | some rules => showTable around.console (rulesTable rules)

/-- Decodes a resource and shows it. -/
def inspect (around : Surroundings) (resource : Value) : Subject → Traced Showing
  | .object withUrl => do return showObject around withUrl (← Object.decode resource)
  | .rules => do return showRules around (← Bucket.decode resource)

/-! ### Commands -/

/-- The report of a failure to the user, line by line. -/
def report (f : Failure Value) : List String :=
  ("Error: " ++ f.message) :: (f.hint?.map fun hint => "Hint: " ++ hint).toList

/-- What comes of a command. -/
structure Outcome where
  exitCode : Nat
  shown : Shown := {}
  /-- The remarks that the user is to see. -/
  notices : List Notice := []
  /-- The lines for the standard error stream. -/
  errors : List String := []
  /-- The failure of a crash. -/
  crash? : Option (Failure Value) := none

namespace Outcome

/-- What comes of showing something, or of the failure to find it. -/
def ofResult (notices : List Notice) : Result Showing → Outcome
  | .ok showing => {
      exitCode := if showing.failure?.isSome then 1 else 0
      notices
      shown := showing.shown
      crash? := showing.failure? }
  | .error f =>
    if f.isAccountedFor then { exitCode := 1, notices, errors := report f }
    else { exitCode := 1, notices, crash? := some f }

end Outcome

/-- What comes of a command line. -/
def run (around : Surroundings) : Line → Outcome
  | .misuse => { exitCode := 2 }
  | .help => { exitCode := 0 }
  | .inspect verbose subject path =>
    let traced : Traced Showing := do
      inspect around (← Source.load around.levels around.read (Path.ofString path)) subject
    Outcome.ofResult (if verbose then traced.notices else []) traced.result

end StorageMetadata.Command
