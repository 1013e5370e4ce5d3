import StorageMetadata.Value.Equality
import StorageMetadata.Value.Sequence

/-!
# Making a map

A map can be made from a map, or from items of which each gives a key and a value.  A key may be
any value that has a fingerprint.  Of two equal keys the earlier one is kept, at its place, with
the value of the later one: the keys 1, 1.0 and true are one.
-/

namespace StorageMetadata.Value

/-- The entries with a value put at a key of any kind. -/
def putKeyed (key value : Value) : List (Value × Value) → Result (List (Value × Value))
  | [] => .ok [(key, value)]
  | (k, v) :: rest => do
    if ← (if k.maybeSame key then same k key else .ok false) then return (k, value) :: rest
    else return (k, v) :: (← putKeyed key value rest)

/-- The entry as one with a text for its key, if it is. -/
def textEntry? : Value × Value → Option (String × Value)
  | (.text key, v) => some (key, v)
  | _ => none

/-- The map with the given entries. -/
def ofEntries (entries : List (Value × Value)) : Value :=
  match entries.mapM textEntry? with
  | some texts => .map texts
  | none => .keyed entries

/-- The entries with those of one more pair. -/
def putPair (entries : List (Value × Value)) (key value : Value) :
    Result (List (Value × Value)) :=
  if key.fingerprint?.isNone then fault .mistyped else putKeyed key value entries

/-- The map in which each key has one place, its first, and its last value. -/
def ofPairs (pairs : List (Value × Value)) : Result Value := do
  return ofEntries (← pairs.foldlM (fun entries p => putPair entries p.1 p.2) [])

/-- The entries with those of one more item, which has to have two items itself. -/
def putItem (entries : List (Value × Value)) (item : Value) : Result (List (Value × Value)) := do
  match ← item.items with
  | [key, value] => putPair entries key value
  | _ => fault .malformed

/-- The map that a value gives. -/
def toMap : Value → Result Value
  | .map es => .ok (.map es)
  | .keyed es => .ok (.keyed es)
  | v => do return ofEntries (← (← v.items).foldlM putItem [])

/-- Entries that all have texts for keys make a map with texts for keys. -/
theorem ofEntries_text (es : List (String × Value)) :
    ofEntries (es.map fun e => (.text e.1, e.2)) = .map es := by
  have read : (es.map fun e => (Value.text e.1, e.2)).mapM textEntry? = some es := by
    induction es with
    | nil => rfl
    | cons e rest ih => rw [List.map_cons, List.mapM_cons, ih]; rfl
  rw [ofEntries, read]

/-- A map gives itself. -/
@[simp] theorem toMap_map (es : List (String × Value)) : toMap (.map es) = .ok (.map es) := rfl

end StorageMetadata.Value
