import StorageMetadata.Access.Entity
import StorageMetadata.Access.Grant
import StorageMetadata.CrossOrigin.Method
import StorageMetadata.CrossOrigin.Origin
import StorageMetadata.CrossOrigin.Rule
import StorageMetadata.Number.Binary64
import StorageMetadata.Record

/-!
# Values

What a field of a resource or a record can hold.  A resource is read from a document, so most of
its values are the document's: nothing, a truth value, a number, a text, a list, or a map with
texts for keys in the order in which they were put.  Records hold, besides these, maps with other
keys, the marker of a cleared field, and the values of the domain: methods, origins, entities,
grants, rules, and even other records, finished or not.

A field keeps whatever value it is given; only the operations that need a kind of value look at it.
-/

namespace StorageMetadata

/-- A value of a field. -/
inductive Value where
  | null
  | bool (b : Bool)
  | int (n : Int)
  | float (x : Binary64)
  | text (s : String)
  | list (items : List Value)
  /-- Each key has one entry; the entries are in the order in which their keys were first put. -/
  | map (entries : List (String × Value))
  /-- A map with at least one key that is not a text. -/
  | keyed (entries : List (Value × Value))
  /-- The marker of a field that was explicitly emptied. -/
  | cleared
  | method (m : Method)
  | origin (o : Origin Value)
  | entity (e : Entity Value)
  | grant (g : Grant Value)
  | rule (r : CorsRule Value)
  /-- A finished object or bucket. -/
  | record (r : Record Value)
  /-- A record that is still being filled in, told from others by its label. -/
  | draft (label : Nat)

namespace Value

instance : Inhabited Value := ⟨.null⟩

instance : Coe String Value := ⟨.text⟩

/-- Is the value nothing? -/
def isNull : Value → Bool
  | .null => true
  | _ => false

@[simp] theorem isNull_eq_true_iff {v : Value} : v.isNull = true ↔ v = .null := by
  cases v <;> simp [isNull]

@[simp] theorem isNull_eq_false_iff {v : Value} : v.isNull = false ↔ v ≠ .null := by
  cases v <;> simp [isNull]

instance (v : Value) : Decidable (v = .null) :=
  decidable_of_iff (v.isNull = true) isNull_eq_true_iff

/-- The text that a value is, if it is one. -/
def text? : Value → Option String
  | .text s => some s
  | _ => none

/-- A list that may be missing, as a value. -/
def ofList? : Option (List Value) → Value
  | none => .null
  | some items => .list items

end Value

/-! ### Entries -/

/-- The entries with `value` put at `key`: a key that is there keeps its place. -/
def putEntry (key : String) (value : Value) : List (String × Value) → List (String × Value)
  | [] => [(key, value)]
  | (k, v) :: rest => if k = key then (k, value) :: rest else (k, v) :: putEntry key value rest

/-- The value at a key. -/
def valueAt? (key : String) : List (String × Value) → Option Value
  | [] => none
  | (k, v) :: rest => if k = key then some v else valueAt? key rest

@[simp] theorem valueAt?_nil (key : String) : valueAt? key [] = none := rfl

theorem valueAt?_cons (key k : String) (v : Value) (rest : List (String × Value)) :
    valueAt? key ((k, v) :: rest) = if k = key then some v else valueAt? key rest := rfl

theorem valueAt?_append (key : String) (front back : List (String × Value)) :
    valueAt? key (front ++ back) = (valueAt? key front).or (valueAt? key back) := by
  induction front with
  | nil => rfl
  | cons e rest ih =>
    obtain ⟨k, v⟩ := e
    by_cases h : k = key <;> simp [valueAt?_cons, h, ih]

/-- What was put is there, and nothing else has changed. -/
theorem valueAt?_putEntry (key other : String) (value : Value) (entries : List (String × Value)) :
    valueAt? other (putEntry key value entries) =
      if key = other then some value else valueAt? other entries := by
  induction entries with
  | nil => rfl
  | cons e rest ih =>
    obtain ⟨k, v⟩ := e
    by_cases hk : k = key
    · subst hk
      by_cases ho : k = other <;> simp [putEntry, valueAt?_cons, ho]
    · by_cases ho : k = other
      · subst ho
        simp [putEntry, hk, valueAt?_cons, Ne.symm hk]
      · simp [putEntry, hk, valueAt?_cons, ho, ih]

end StorageMetadata
