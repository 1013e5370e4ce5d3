import Mathlib.Data.List.Nodup
import StorageMetadata.Proofs.Resource.Codec

/-!
# Records laid out in a resource

A `Layout` lists the fields of a record, each with a key of its own and a codec.  A resource is read
key by key (`Layout.Reads`) and written key by key (`Layout.Writes`).  If every codec is lawful, the
two undo each other:

    Writes part es → Reads es part            for parts of their types,
    Reads es part → Writes part (normal es)   for a resource of admitted values.

Nothing is said of other keys: they are not read, and they are not written.
-/

namespace StorageMetadata.Resource

open StorageMetadata.Value

def slotEntry (key : String) : Option Value → List (String × Value)
  | none => []
  | some v => [(key, v)]

theorem entry_eq (key : String) (v : Value) : entry key v = slotEntry key (present v) := by
  unfold entry present
  split <;> rfl

theorem valueAt?_slotEntry (key other : String) (s : Option Value) :
    valueAt? other (slotEntry key s) = if key = other then s else none := by
  cases s with
  | none => simp [slotEntry]
  | some v => simp [slotEntry, valueAt?_cons]

/-- The entry at a key as it is, left out if it holds nothing. -/
def keptEntry (key : String) (es : List (String × Value)) : List (String × Value) :=
  slotEntry key (held (valueAt? key es))

/-- The entry at a key with its value changed, left out if it holds nothing. -/
def changedEntry (key : String) (f : Value → Value) (es : List (String × Value)) :
    List (String × Value) :=
  slotEntry key ((held (valueAt? key es)).map f)

/-- Does a value at the key mean a number, and is it the text of that number at the key of the other
resource? -/
def Respelled (Means : Value → Int → Prop) (text : Int → String) (key : String)
    (es fs : List (String × Value)) : Prop :=
  ∀ v, valueAt? key es = some v → v ≠ .null →
    ∃ n, Means v n ∧ valueAt? key fs = some (.text (text n))

/-- The fields of a record, each with its key and its codec. -/
structure Layout (ι : Type) where
  /-- The fields in the order in which they are written. -/
  fields : List ι
  mem_fields : ∀ i, i ∈ fields
  key : ι → String
  /-- No two fields have one key. -/
  nodup_keys : (fields.map key).Nodup
  codec : ι → Codec

namespace Layout

variable {ι : Type} (L : Layout ι)

/-- The entries with the given values at the keys. -/
def entries (slot : ι → Option Value) : List (String × Value) :=
  L.fields.flatMap fun i => slotEntry (L.key i) (slot i)

/-- A key that belongs to none of the given fields is missing. -/
theorem valueAt?_flatMap_of_ne {key : String} (slot : ι → Option Value) :
    ∀ {is : List ι}, (∀ i ∈ is, L.key i ≠ key) →
      valueAt? key (is.flatMap fun i => slotEntry (L.key i) (slot i)) = none := by
  intro is
  induction is with
  | nil => intro _; rfl
  | cons i rest ih =>
    intro h
    obtain ⟨hi, hrest⟩ := List.forall_mem_cons.1 h
    rw [List.flatMap_cons, valueAt?_append, valueAt?_slotEntry, if_neg hi, Option.none_or, ih hrest]

theorem valueAt?_flatMap_of_mem (slot : ι → Option Value) {i : ι} :
    ∀ {is : List ι}, (is.map L.key).Nodup → i ∈ is →
      valueAt? (L.key i) (is.flatMap fun j => slotEntry (L.key j) (slot j)) = slot i := by
  intro is
  induction is with
  | nil => intro _ h; cases h
  | cons j rest ih =>
    intro nodup h
    obtain ⟨fresh, nodup⟩ := List.nodup_cons.1 nodup
    rw [List.flatMap_cons, valueAt?_append, valueAt?_slotEntry]
    rcases List.mem_cons.1 h with rfl | h
    · -- Nothing may be put at the key, and then it must not be found further on.
      rw [if_pos rfl, valueAt?_flatMap_of_ne, Option.or_none]
      intro k hk he
      exact fresh (List.mem_map.2 ⟨k, hk, he⟩)
    · rw [if_neg, Option.none_or, ih nodup h]
      intro he
      exact fresh (List.mem_map.2 ⟨i, h, he.symm⟩)

/-- What is at the key of a field is what was put there. -/
theorem valueAt?_entries (slot : ι → Option Value) (i : ι) :
    valueAt? (L.key i) (L.entries slot) = slot i :=
  L.valueAt?_flatMap_of_mem slot L.nodup_keys (L.mem_fields i)

theorem key_injective : Function.Injective L.key := fun i j h =>
  List.inj_on_of_nodup_map L.nodup_keys (L.mem_fields i) (L.mem_fields j) h

theorem exists_of_mem_entries {slot : ι → Option Value} {e : String × Value}
    (h : e ∈ L.entries slot) : ∃ i, e.1 = L.key i ∧ slot i = some e.2 := by
  obtain ⟨i, -, hi⟩ := List.mem_flatMap.1 h
  refine ⟨i, ?_⟩
  cases hs : slot i with
  | none =>
    rw [hs] at hi
    cases hi
  | some v =>
    rw [hs, slotEntry, List.mem_singleton] at hi
    subst hi
    exact ⟨rfl, rfl⟩

/-! ### Reading and writing a record -/

/-- Are these the parts that are read from the entries? -/
def Reads (es : List (String × Value)) (part : ι → Value) : Prop :=
  ∀ i, (L.codec i).read (valueAt? (L.key i) es) = .ok (part i)

theorem reads_congr {es fs : List (String × Value)} {part : ι → Value}
    (h : ∀ i, (L.codec i).read (valueAt? (L.key i) es) = (L.codec i).read (valueAt? (L.key i) fs)) :
    L.Reads es part ↔ L.Reads fs part := by
  simp only [Reads, h]

/-- Are these the entries that are written for the parts? -/
def Writes (part : ι → Value) (es : List (String × Value)) : Prop :=
  ∃ slot, (∀ i, (L.codec i).write (part i) = .ok (slot i)) ∧ es = L.entries slot

def Typed (part : ι → Value) : Prop := ∀ i, (L.codec i).Typed (part i)

/-- Has a resource only values of the right kinds at the keys of the fields? -/
def Admits (es : List (String × Value)) : Prop := ∀ i, (L.codec i).AdmitsAt (valueAt? (L.key i) es)

/-- The entries of a resource in normal form. -/
def normal (es : List (String × Value)) : List (String × Value) :=
  L.entries fun i => (L.codec i).normal (valueAt? (L.key i) es)

def Lawful : Prop := ∀ i, (L.codec i).Lawful

variable {L} {part : ι → Value} {es : List (String × Value)}

theorem Writes.unique {fs : List (String × Value)} (h : L.Writes part es) (h' : L.Writes part fs) :
    es = fs := by
  obtain ⟨slot, hslot, rfl⟩ := h
  obtain ⟨slot', hslot', rfl⟩ := h'
  have same : slot = slot' := funext fun i => Except.ok.inj ((hslot i).symm.trans (hslot' i))
  rw [same]

theorem exists_writes (h : ∀ i, ∃ s, (L.codec i).write (part i) = .ok s) :
    ∃ es, L.Writes part es :=
  ⟨_, fun i => (h i).choose, fun i => (h i).choose_spec, rfl⟩

/-- What is at the key of a field is what its codec puts there. -/
theorem Writes.write_eq (h : L.Writes part es) (i : ι) :
    (L.codec i).write (part i) = .ok (valueAt? (L.key i) es) := by
  obtain ⟨slot, hslot, rfl⟩ := h
  rw [valueAt?_entries]
  exact hslot i

/-- Nothing is written at a key of no field. -/
theorem Writes.valueAt?_eq_none (h : L.Writes part es) {key : String}
    (unknown : ∀ i, L.key i ≠ key) : valueAt? key es = none := by
  obtain ⟨slot, -, rfl⟩ := h
  exact L.valueAt?_flatMap_of_ne slot fun i _ => unknown i

/-- Where two records differ in one field only, their resources differ at its key only. -/
theorem Writes.valueAt?_congr {part' : ι → Value} {fs : List (String × Value)}
    (h : L.Writes part es) (h' : L.Writes part' fs) {i : ι} (same : ∀ j, j ≠ i → part j = part' j)
    {key : String} (hkey : key ≠ L.key i) : valueAt? key es = valueAt? key fs := by
  by_cases known : ∃ j, L.key j = key
  · obtain ⟨j, rfl⟩ := known
    have hj : j ≠ i := fun e => hkey (congrArg L.key e)
    have write := h.write_eq j
    rw [same j hj] at write
    exact Except.ok.inj (write.symm.trans (h'.write_eq j))
  · have unknown : ∀ j, L.key j ≠ key := not_exists.1 known
    rw [h.valueAt?_eq_none unknown, h'.valueAt?_eq_none unknown]

/-- **What was written is read back**, if the parts are of their types; and they can be written. -/
theorem exists_writes_reads (lawful : L.Lawful) (typed : L.Typed part) :
    ∃ es, L.Writes part es ∧ L.Reads es part := by
  have each : ∀ i, ∃ s, (L.codec i).write (part i) = .ok s ∧ (L.codec i).read s = .ok (part i) :=
    fun i => (lawful i).read_write (part i) (typed i)
  refine ⟨L.entries fun i => (each i).choose, ⟨_, fun i => (each i).choose_spec.1, rfl⟩, ?_⟩
  intro i
  rw [valueAt?_entries]
  exact (each i).choose_spec.2

/-- **What was read is written in normal form**, and its parts are of their types. -/
theorem typed_and_writes_normal (lawful : L.Lawful) (admits : L.Admits es) (reads : L.Reads es part)
    (ranged : ∀ i, (L.codec i).Ranged (part i)) :
    L.Typed part ∧ L.Writes part (L.normal es) := by
  have each := fun i => (lawful i).write_read _ (part i) (admits i) (reads i) (ranged i)
  exact ⟨fun i => (each i).1, _, fun i => (each i).2, rfl⟩

/-- The normal form of what was read is read as the same parts. -/
theorem reads_normal (lawful : L.Lawful) (admits : L.Admits es) (reads : L.Reads es part)
    (ranged : ∀ i, (L.codec i).Ranged (part i)) : L.Reads (L.normal es) part := by
  -- The normal form is what is written for the parts, and that is read back.
  obtain ⟨typed, writes⟩ := typed_and_writes_normal lawful admits reads ranged
  obtain ⟨fs, hfs, again⟩ := exists_writes_reads lawful typed
  rw [writes.unique hfs]
  exact again

/-- In normal form a number that was read is spelled again. -/
theorem respelled_normal {Means : Value → Int → Prop} {text : Int → String} {F : Form} {i : ι}
    (each : ∀ v w, F.decode v = .ok w → ∃ n, Means v n ∧ F.normal v = .text (text n))
    (codec : L.codec i = F.optional) (reads : L.Reads es part) :
    Respelled Means text (L.key i) es (L.normal es) := by
  intro v hv some
  have read := reads i
  simp only [codec, hv, Form.optional, Option.getD_some, if_neg some] at read
  obtain ⟨n, means, spelled⟩ := each v _ read
  refine ⟨n, means, ?_⟩
  rw [normal, valueAt?_entries, codec, hv]
  show (present v).map F.normal = _
  rw [present_of_ne some, Option.map_some, spelled]

end Layout

end StorageMetadata.Resource
