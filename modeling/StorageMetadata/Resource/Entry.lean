import StorageMetadata.Value.Keyed

/-!
# Entries of a resource

A field of a record becomes at most one entry.  Most fields leave their entry out when they hold
nothing.  A field that can be cleared has three states: unset, where there is no entry; cleared,
where the entry holds nothing; and a value.  Reading keeps the three apart, since a missing key is
not an entry with nothing in it.
-/

namespace StorageMetadata.Resource

/-- Nothing put into a field that can be cleared clears it. -/
def clearable (v : Value) : Value := if v = .null then .cleared else v

/-- A cleared field is seen as nothing. -/
def collapse : Value → Value
  | .cleared => .null
  | v => v

/-- Is the field cleared? -/
def isCleared : Value → Bool
  | .cleared => true
  | _ => false

/-- Seen from outside, clearing a field is the same as leaving it unset. -/
theorem collapse_clearable (v : Value) : collapse (clearable v) = collapse v := by
  cases v <;> rfl

/-- The entry of a field that is left out when it holds nothing. -/
def entry (key : String) (v : Value) : List (String × Value) :=
  if v = .null then [] else [(key, v)]

/-- The entry of a field with three states. -/
def clearableEntry (key : String) : Value → List (String × Value)
  | .null => []
  | .cleared => [(key, .null)]
  | v => [(key, v)]

/-- The entries with a field of three states put at its key. -/
def putClearable (key : String) (v : Value) (entries : List (String × Value)) :
    List (String × Value) :=
  (clearableEntry key v).foldl (fun es p => putEntry p.1 p.2 es) entries

/-- A field of three states as it is read from a resource. -/
def readClearable (key : String) (r : Value) : Result Value := do
  let v ← r.field key
  return if r.hasField key then clearable v else .null

/-- A field that a resource has to hold. -/
def readRequired (key : String) (r : Value) : Result Value := do
  let v ← r.field key
  if v = .null then .error (.missingField key) else return v

/-- A sequence that may be missing. -/
def sequence? (v : Value) : Result (Option (List Value)) :=
  if v = .null then .ok none else v.items.map some

/-- A map that may be missing. -/
def mapValue (v : Value) : Result Value := if v = .null then .ok .null else v.toMap

end StorageMetadata.Resource
