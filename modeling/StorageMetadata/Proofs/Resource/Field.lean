import StorageMetadata.Proofs.Resource.Layout

/-!
# The codecs of the fields

The functions that read one field of a resource, and those that give what is put for one field of a
record, are those of a codec: a field is read from what is at its key, and its entry is what the
codec puts there.  Reading is stated of a map, the only value that is read from a document and has
fields.
-/

namespace StorageMetadata.Resource

open StorageMetadata.Value

variable (key : String) (es : List (String × Value)) (v : Value)

theorem readRequired_map :
    readRequired key (.map es) = (Codec.required key).read (valueAt? key es) := rfl

/-- A field that has to be there is read if it holds something. -/
theorem required_read_eq_ok_iff {s : Option Value} {v : Value} :
    (Codec.required key).read s = .ok v ↔ s = some v ∧ v ≠ .null := by
  constructor
  · intro h
    simp only [Codec.required] at h
    split at h
    · cases h
    next some =>
      cases h
      exact ⟨eq_some_of_getD rfl some, some⟩
  · rintro ⟨rfl, some⟩
    exact if_neg some

theorem asIs_optional_read (P : Value → Prop) (s : Option Value) :
    (Form.asIs P).optional.read s = .ok (s.getD .null) := by
  simp only [Form.optional, Form.asIs]
  split
  next h => rw [h]
  next => rfl

theorem field_map_eq_ok_iff (P : Value → Prop) :
    (Value.map es).field key = .ok v ↔ (Form.asIs P).optional.read (valueAt? key es) = .ok v := by
  rw [asIs_optional_read]
  rfl

theorem failure?_field (P : Value → Prop) : Result.failure? ((Value.map es).field key) =
    Result.failure? ((Form.asIs P).optional.read (valueAt? key es)) := by
  rw [asIs_optional_read]
  rfl

theorem asIs_optional_write (P : Value → Prop) :
    (Form.asIs P).optional.write v = .ok (present v) := by
  simp only [Form.optional, Form.asIs, present]
  split <;> rfl

theorem entry_of_asIs {P : Value → Prop} {s : Option Value}
    (h : (Form.asIs P).optional.write v = .ok s) : entry key v = slotEntry key s := by
  rw [asIs_optional_write] at h
  rw [entry_eq, Except.ok.inj h]

theorem entry_of_required {s : Option Value} (h : (Codec.required key).write v = .ok s) :
    entry key v = slotEntry key s := by
  rw [entry_eq, Except.ok.inj h]

/-- What is put for a field, if what is put for it is what its codec puts. -/
theorem exists_entry {x : Result Value} {w : Result (Option Value)} {s : Option Value}
    (h : x.map present = w) (hs : w = .ok s) :
    ∃ v, x = .ok v ∧ entry key v = slotEntry key s := by
  obtain ⟨v, hv, rfl⟩ := Result.map_eq_ok_iff.1 (h.trans hs)
  exact ⟨v, hv, entry_eq key v⟩

theorem exists_write {x : Result Value} {w : Result (Option Value)} {v : Value}
    (h : x.map present = w) (hx : x = .ok v) : ∃ s, w = .ok s := by
  rw [← h, hx]
  exact ⟨present v, rfl⟩

theorem exists_write_asIs (P : Value → Prop) : ∃ s, (Form.asIs P).optional.write v = .ok s :=
  ⟨present v, asIs_optional_write v P⟩

theorem exists_write_clearable : ∃ s, Codec.clearable.write v = .ok s := by
  cases v <;> exact ⟨_, rfl⟩

theorem integerField_map :
    integerField key (.map es) = (Form.integer key).optional.read (valueAt? key es) := by
  show (if _ then _ else _) = (if _ then _ else _)
  split
  next => rfl
  next => exact Result.bind_pure_eq_map _ _

theorem integerValue_map_present :
    (integerValue v).map present = (Form.integer key).optional.write v := by
  simp only [integerValue, Form.optional, Form.integer, writeInteger]
  split
  next => rfl
  next => cases v.shown <;> rfl

theorem instantField_map :
    instantField key (.map es) = (Form.instant key).optional.read (valueAt? key es) := by
  show (if _ then _ else _) = (if _ then _ else _)
  split
  next => rfl
  next => exact Result.bind_pure_eq_map _ _

theorem instantValue_map_present :
    (instantValue key v).map present = (Form.instant key).optional.write v := by
  simp only [instantValue, Form.optional, Form.instant]
  split
  next => rfl
  next => cases writeInstant key v <;> rfl

theorem readClearable_map :
    readClearable key (.map es) = Codec.clearable.read (valueAt? key es) := by
  show Except.ok (if (valueAt? key es).isSome then _ else _) = Except.ok _
  cases valueAt? key es <;> rfl

theorem clearableEntry_eq {s : Option Value} (h : Codec.clearable.write v = .ok s) :
    clearableEntry key v = slotEntry key s := by
  cases v <;> cases h <;> rfl

/-! ### Lists -/

theorem ofList?_injective : Function.Injective ofList? := by
  intro xs? ys? h
  cases xs? <;> cases ys? <;> cases h <;> rfl

/-- The items of a list that may be missing, read from what is at a key. -/
def Form.readItems (F : Form) (s : Option Value) : Result (Option (List Value)) := do
  let items? ← sequence? (s.getD .null)
  items?.mapM fun items => List.mapM F.decode items

theorem Form.readItems_map (F : Form) (s : Option Value) :
    (F.readItems s).map ofList? = F.list.optional.read s := by
  show ((sequence? (s.getD .null) >>= _).map _ : Result Value) = _
  simp only [sequence?, Form.optional, Form.list]
  split
  next => rfl
  next =>
    cases (s.getD .null).items with
    | error e => rfl
    | ok items =>
      show ((items.mapM F.decode).map some).map ofList? = (items.mapM F.decode).bind _
      cases items.mapM F.decode <;> rfl

theorem Form.failure?_readItems (F : Form) (s : Option Value) :
    Result.failure? (F.readItems s) = Result.failure? (F.list.optional.read s) := by
  rw [← F.readItems_map, Result.failure?_map]

/-- A list that may be missing is read item by item. -/
theorem Form.readItems_eq_ok_iff {F : Form} {s : Option Value} {items? : Option (List Value)} :
    F.readItems s = .ok items? ↔ F.list.optional.read s = .ok (ofList? items?) := by
  rw [← F.readItems_map, Result.map_eq_ok_iff]
  constructor
  · intro h
    exact ⟨items?, h, rfl⟩
  · rintro ⟨read?, h, same⟩
    rw [h, ofList?_injective same]

/-- A list that is read with remarks is read item by item all the same. -/
theorem Form.result_readItems {F : Form} {read : Value → Traced Value} (s : Option Value)
    (h : ∀ v, (read v).result = F.decode v) :
    (show Traced (Option (List Value)) from do
      match ← sequence? (s.getD .null) with
      | none => return none
      | some items => return some (← items.mapM read)).result = F.readItems s := by
  rw [Traced.result_bind, Traced.result_liftM]
  refine bind_congr fun items? => ?_
  cases items? with
  | none => rfl
  | some items =>
    simp only [Traced.result_bind, Traced.result_mapM, Traced.result_pure, h]
    rfl

theorem mapM_ok (items? : Option (List Value)) :
    (items?.mapM fun items => List.mapM Except.ok items) = (.ok items? : Result _) := by
  cases items? with
  | none => rfl
  | some items =>
    show (items.mapM (pure : Value → Result Value)).map some = _
    rw [List.mapM_pure, List.map_id']
    rfl

theorem Form.asIs_readItems (P : Value → Prop) (s : Option Value) :
    (asIs P).readItems s = sequence? (s.getD .null) := by
  simp only [readItems, asIs, mapM_ok]
  exact bind_pure _

theorem Form.list_optional_write (F : Form) (items? : Option (List Value)) :
    F.list.optional.write (ofList? items?) =
      (items?.mapM fun items => List.mapM F.encode items).map (Option.map .list) := by
  cases items? with
  | none => rfl
  | some items =>
    show ((items.mapM F.encode).bind _).map some = ((items.mapM F.encode).map some).map _
    cases items.mapM F.encode <;> rfl

theorem Form.items_map_present (F : Form) (items? : Option (List Value)) :
    (match items? with
      | none => .ok .null
      | some items => (items.mapM F.encode).map .list : Result Value).map present =
      F.list.optional.write (ofList? items?) := by
  cases items? with
  | none => rfl
  | some items =>
    show ((items.mapM F.encode).map Value.list).map present =
      ((items.mapM F.encode).bind _).map some
    cases items.mapM F.encode <;> rfl

theorem Form.asIs_list_optional_write (P : Value → Prop) (items? : Option (List Value)) :
    (asIs P).list.optional.write (ofList? items?) = .ok (items?.map .list) := by
  rw [list_optional_write]
  simp only [asIs, mapM_ok]
  rfl

end StorageMetadata.Resource
