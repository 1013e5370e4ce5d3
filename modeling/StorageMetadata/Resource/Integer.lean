import StorageMetadata.Value.Sequence
import StorageMetadata.Value.Shown

/-!
# Integers in a resource

A resource holds an integer as its decimal text.  Reading also takes a number with an integer for
its value, but neither a truth value nor a number with a fraction.
-/

namespace StorageMetadata.Resource

/-- The failure of a field that holds no integer. -/
def notAnInteger (field : String) (v : Value) (cause : Option Fault) :
    Failure Value :=
  .wireFormat .integer field v cause

/-- The integer that a field holds. -/
def readInteger (field : String) (v : Value) : Result Int :=
  match v with
  | .int n => .ok n
  | .text s => match Decimal.read? s with
    | some n => .ok n
    | none => .error (notAnInteger field v (some .malformed))
  | .float x => match x.toInt? with
    | some n => .ok n
    | none => .error (notAnInteger field v none)
  | .bool _ => .error (notAnInteger field v none)
  | _ => .error (notAnInteger field v (some .mistyped))

/-- The text of an integer field; a value that is no integer is written as it is shown. -/
def writeInteger (v : Value) : Result Value := v.shown.map .text

@[simp] theorem writeInteger_int (n : Int) :
    writeInteger (.int n) = .ok (.text (Decimal.write n)) := rfl

/-- An integer field of a record, or nothing, as it is written. -/
def integerValue (v : Value) : Result Value := if v = .null then .ok .null else writeInteger v

/-- The integer that a field of a resource holds, or nothing. -/
def integerField (key : String) (resource : Value) : Result Value := do
  let v ← resource.field key
  if v = .null then return .null
  return .int (← readInteger key v)

end StorageMetadata.Resource
