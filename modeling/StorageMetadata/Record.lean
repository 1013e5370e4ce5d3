import StorageMetadata.Failure.Basic
import StorageMetadata.Fingerprint

/-!
# Records as values

An object or a bucket that is finished may itself stand where a value is expected, for instance in
a list of another record.  What matters of it there is what can be seen of a record from outside:
of which kind it is, how it is shown, its fingerprint, and the resource that it is written as, or
the failure to write it.  Records are compared by their resources, but a record is always equal to
itself, and so each has a label that tells it from others.
-/

namespace StorageMetadata

/-- The kinds of records. -/
inductive RecordKind (α : Type) where
  | object
  /-- A bucket can be given where its name is asked for. -/
  | bucket (name : α)

/-- A finished record as it is seen from outside, with values of the type `α`. -/
structure Record (α : Type) where
  kind : RecordKind α
  label : Nat
  literal : String
  /-- The fingerprint, if the record has one. -/
  fingerprint? : Option Fingerprint
  /-- The record as a resource, or what is in the way of writing it. -/
  resource : Except (Failure α) α

end StorageMetadata
