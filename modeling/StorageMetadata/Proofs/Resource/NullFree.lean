import StorageMetadata.Proofs.Resource.Layout

/-!
# Resources without nothing

A form is null-free if nothing stands anywhere inside of what is written for a value of its type,
and a codec is if that holds of what it puts at a key.  A record in a layout of null-free codecs is
written as a null-free map: what holds nothing is left out.  Only a field with three states has a
codec that is not null-free.

A codec that is not for three states never puts an entry with nothing in it (`Codec.NeverNull`),
whatever the field holds.
-/

namespace StorageMetadata.Resource

open StorageMetadata.Value

/-- Does nothing stand anywhere inside of what is written? -/
def Form.NullFree (F : Form) : Prop :=
  ∀ v w, F.Typed v → F.encode v = .ok w → Value.NullFree w

/-- Does nothing stand anywhere inside of what is put at the key? -/
def Codec.NullFree (C : Codec) : Prop :=
  ∀ v w, C.Typed v → C.write v = .ok (some w) → Value.NullFree w

theorem nullFree_of_isText {v : Value} (h : v.IsText) : Value.NullFree v := by
  obtain ⟨s, rfl⟩ := h
  exact .text s

namespace Form

theorem nullFree_asIs {P : Value → Prop} (h : ∀ v, P v → Value.NullFree v) : (asIs P).NullFree := by
  intro v w hv hw
  cases hw
  exact h v hv

theorem nullFree_text : (asIs IsText).NullFree := nullFree_asIs fun _ => nullFree_of_isText

theorem nullFree_flag : (asIs IsFlag).NullFree := by
  refine nullFree_asIs ?_
  rintro _ ⟨b, rfl⟩
  exact .bool b

theorem nullFree_number : (asIs IsInteger).NullFree := by
  refine nullFree_asIs ?_
  rintro _ ⟨n, rfl⟩
  exact .int n

theorem nullFree_integer (key : String) : (integer key).NullFree := by
  intro v w hv hw
  obtain ⟨s, -, rfl⟩ := Result.map_eq_ok_iff.1 hw
  exact .text s

theorem nullFree_instant (key : String) : (instant key).NullFree := by
  intro v w hv hw
  obtain ⟨s, -, rfl⟩ := Result.map_eq_ok_iff.1 hw
  exact .text s

theorem nullFree_list {F : Form} (h : F.NullFree) : F.list.NullFree := by
  rintro _ w ⟨items, rfl, each⟩ hw
  obtain ⟨written, hwritten, hw⟩ := Result.bind_eq_ok_iff.1 hw
  cases hw
  refine .list fun x hx => ?_
  obtain ⟨v, hv, encoded⟩ := Result.exists_of_mem_mapM hwritten x hx
  exact h v x (each v hv) encoded

theorem nullFree_optional {F : Form} (h : F.NullFree) : F.optional.NullFree := by
  intro v w hv hw
  simp only [optional] at hw
  split at hw
  next => cases hw
  next some =>
    obtain ⟨x, hx, he⟩ := Result.map_eq_ok_iff.1 hw
    cases he
    exact h v w (hv.resolve_left some) hx

theorem nullFree_within {F : Form} (h : F.NullFree) (inner : String) :
    (F.within inner).NullFree := by
  intro v w hv hw
  obtain ⟨s, hs, he⟩ := Result.map_eq_ok_iff.1 hw
  obtain ⟨x, rfl, rfl⟩ := Option.map_eq_some_iff.1 he
  exact .map (List.forall_mem_singleton.2 (nullFree_optional h v x hv hs))

end Form

theorem Codec.nullFree_required (key : String) : (required key).NullFree := by
  intro v w hv hw
  have put : present v = some w := Except.ok.inj hw
  rw [present_of_ne hv.ne_null] at put
  cases put
  exact nullFree_of_isText hv

/-- A record in null-free codecs is written as a null-free map. -/
theorem Layout.nullFree_of_writes {ι : Type} {L : Layout ι} {part : ι → Value}
    {es : List (String × Value)} (h : ∀ i, (L.codec i).NullFree) (typed : L.Typed part)
    (writes : L.Writes part es) : Value.NullFree (.map es) := by
  obtain ⟨slot, hslot, rfl⟩ := writes
  refine .map fun e he => ?_
  obtain ⟨i, -, hi⟩ := L.exists_of_mem_entries he
  exact h i (part i) e.2 (typed i) ((hslot i).trans (congrArg _ hi))

/-! ### Entries with nothing in them -/

/-- Is an entry never put with nothing in it, of whatever type the value of the field is? -/
def Codec.NeverNull (C : Codec) : Prop := ∀ v, C.write v ≠ .ok (some .null)

theorem Form.neverNull_optional {F : Form} (h : ∀ v, v ≠ .null → F.encode v ≠ .ok .null) :
    F.optional.NeverNull := by
  intro v hw
  simp only [optional] at hw
  split at hw
  next => cases hw
  next some =>
    obtain ⟨x, hx, he⟩ := Result.map_eq_ok_iff.1 hw
    cases he
    exact h v some hx

theorem Form.neverNull_asIs (P : Value → Prop) : (asIs P).optional.NeverNull :=
  neverNull_optional fun _ some h => some (Except.ok.inj h)

theorem Form.neverNull_integer (key : String) : (integer key).optional.NeverNull :=
  neverNull_optional fun v _ h => by
    obtain ⟨s, -, he⟩ := Result.map_eq_ok_iff.1 h
    cases he

theorem Form.neverNull_instant (key : String) : (instant key).optional.NeverNull :=
  neverNull_optional fun v _ h => by
    obtain ⟨s, -, he⟩ := Result.map_eq_ok_iff.1 h
    cases he

theorem Form.neverNull_list (F : Form) : F.list.optional.NeverNull :=
  neverNull_optional fun v _ h => by
    cases v with
    | list items =>
      obtain ⟨written, -, he⟩ := Result.bind_eq_ok_iff.1 h
      cases he
    | _ => cases h

theorem Form.neverNull_within (F : Form) (inner : String) : (F.within inner).NeverNull := by
  intro v h
  obtain ⟨s, -, he⟩ := Result.map_eq_ok_iff.1 h
  obtain ⟨w, -, he⟩ := Option.map_eq_some_iff.1 he
  cases he

theorem Codec.neverNull_required (key : String) : (required key).NeverNull := by
  intro v h
  have put : present v = some .null := Except.ok.inj h
  unfold present at put
  split at put
  · cases put
  next some => exact some (Option.some.inj put)

end StorageMetadata.Resource
