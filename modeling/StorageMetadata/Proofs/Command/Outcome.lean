import StorageMetadata.Command.Run
import StorageMetadata.Display.Layout
import StorageMetadata.Proofs.Display.Table
import StorageMetadata.Proofs.Source.Load

/-!
# What comes of a command

A command loads a resource, decodes it, and shows the result; `prepared` is what it is to show, or the
first failure on the way.  If there is no failure, it is shown; a failure of loading or of decoding
that the library accounts for is reported; and every stray failure is a crash.  Showing itself fails
with an accountable failure in one case only, and then that is a crash too: an object that was changed
at a time out of range, where everything that is shown above the time can be shown.

What draws the tables and puts out the lines may fail in any way it likes, but not with a failure that
this library accounts for.  And nothing is said of a file that is left open by loading (`LeftOpen`).
-/

namespace StorageMetadata.Command

open StorageMetadata.Value StorageMetadata.Resource StorageMetadata.Result StorageMetadata.Display

/-! ### Showing -/

section

variable {α : Type} (out : α → Except Fault Unit) (console : Console) {made : Result α}
  {f : Failure Value}

theorem failure?_showTable (table : Result Table) :
    (showTable console table).failure? = failure? (putOut console.draw table) := by
  unfold showTable
  cases putOut console.draw table <;> rfl

theorem failure?_showLine (line : Result String) :
    (showLine console line).failure? = failure? (putOut console.print line) := by
  unfold showLine
  cases putOut console.print line <;> rfl

theorem Showing.failure?_andThen (first second : Showing) :
    (first.andThen second).failure? = first.failure?.or second.failure? := by
  unfold andThen
  cases h : first.failure? with
  | none => rfl
  | some f => exact h

end

section

variable {around : Surroundings} {withUrl : Bool} {o : Object} {f : Failure Value}

/-- Showing an object fails with what drawing its table fails with, and then with what putting out its
address fails with. -/
theorem failure?_showObject (around : Surroundings) (withUrl : Bool) (o : Object) :
    (showObject around withUrl o).failure? =
      (failure? (putOut around.console.draw (objectTable around.console o))).or
        (if withUrl then failure? (putOut around.console.print
          ((Endpoint.ofEnvironment around.environment).objectUrl o.bucket o.name))
        else none) := by
  unfold showObject
  cases withUrl with
  | false => exact (failure?_showTable _ _).trans (Option.or_none).symm
  | true =>
    show (Showing.andThen _ _).failure? = _
    rw [Showing.failure?_andThen, failure?_showTable, failure?_showLine]
    rfl

/-- Without a table nothing is shown of an object. -/
theorem showObject_of_objectTable_eq_error (h : objectTable around.console o = .error f) :
    showObject around withUrl o = { failure? := some f } := by
  have table : showTable around.console (objectTable around.console o) = { failure? := some f } := by
    rw [h]
    rfl
  unfold showObject
  rw [table]
  cases withUrl <;> rfl

end

/-! ### What comes of a command -/

namespace Outcome

/-- Is this a failure that escapes without a report? -/
def IsCrash (outcome : Outcome) (f : Failure Value) : Prop :=
  outcome.exitCode = 1 ∧ outcome.errors = [] ∧ outcome.crash? = some f

end Outcome

/-- What was shown, if nothing failed. -/
def Showing.result (showing : Showing) : Result Shown :=
  match showing.failure? with
  | none => .ok showing.shown
  | some f => .error f

section

variable (around : Surroundings) (subject : Subject) (path : String)

/-- What comes of showing what a command shows, or the failure to load or to decode the resource. -/
def found : Result Showing := do
  let resource ← (Source.load around.levels around.read (Path.ofString path)).result
  (inspect around resource subject).result

/-- A command comes to what is found, whatever remarks were made. -/
theorem exists_run_eq (verbose : Bool) :
    ∃ notices, run around (.inspect verbose subject path) =
      Outcome.ofResult notices (found around subject path) := by
  refine ⟨_, congrArg (Outcome.ofResult _) ?_⟩
  exact Traced.result_bind _ _

variable {around subject path}

/-- A resource that was loaded is a map of a document. -/
theorem exists_document_of_load {levels : Nat} {read : Path → Except Fault ByteArray} {p : Path}
    {resource : Value} (h : (Source.load levels read p).result = .ok resource) :
    ∃ es, resource = .map es ∧ IsDocument (.map es) := by
  cases Source.loads_of_result_load h with
  | resource _ _ document => exact ⟨_, rfl, document⟩

/-- An object is shown if it is decoded. -/
theorem inspect_object_eq_ok_iff {withUrl : Bool} {resource : Value} {showing : Showing} :
    (inspect around resource (.object withUrl)).result = .ok showing ↔
      ∃ o, (Object.decode resource).result = .ok o ∧ showObject around withUrl o = showing := by
  simp only [inspect, Traced.result_bind_pure, map_eq_ok_iff]

end

/-- Surroundings in which no variable is set. -/
def bare (read : Path → Except Fault ByteArray) : Surroundings where
  read := read
  environment _ := none
  console := plainConsole
  levels := 900

end StorageMetadata.Command
