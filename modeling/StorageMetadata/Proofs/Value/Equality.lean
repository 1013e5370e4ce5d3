import StorageMetadata.Proofs.Value.Kinds

/-!
# Values that stand for the same

A value of a simple kind stands for the same as itself, and a list stands for the same as another
one if its items do, one by one.  The laws on lists compare a list with what becomes of it when
every item is changed into one that stands for the same.
-/

namespace StorageMetadata.Value

theorem IsText.same_self {v : Value} (h : v.IsText) : same v v = .ok true := by
  obtain ⟨s, rfl⟩ := h
  rw [same_text, decide_eq_true rfl]

theorem IsFlag.same_self {v : Value} (h : v.IsFlag) : same v v = .ok true := by
  obtain ⟨b, rfl⟩ := h
  cases b <;> rfl

theorem IsInteger.same_self {v : Value} (h : v.IsInteger) : same v v = .ok true := by
  obtain ⟨n, rfl⟩ := h
  show Except.ok (decide (n = n)) = _
  rw [decide_eq_true rfl]

theorem IsFitting.isInteger {v : Value} (h : v.IsFitting) : v.IsInteger :=
  h.imp fun _ hn => hn.1

theorem IsInstant.isInteger {v : Value} (h : v.IsInstant) : v.IsInteger :=
  h.imp fun _ hn => hn.1

theorem Optional.same_self {P : Value → Prop} {v : Value} (h : Optional P v)
    (hP : ∀ w, P w → same w w = .ok true) : same v v = .ok true := by
  rcases h with rfl | h
  · rfl
  · exact hP v h

/-! ### Lists -/

theorem sameItems_map {f : Value → Value} :
    ∀ {items : List Value}, (∀ v ∈ items, same (f v) v = .ok true) →
      sameItems (items.map f) items = .ok true := by
  intro items
  induction items with
  | nil => intro _; rfl
  | cons v rest ih =>
    intro h
    obtain ⟨hv, hrest⟩ := List.forall_mem_cons.1 h
    show (same (f v) v >>= fun b => if b then sameItems (rest.map f) rest else return false) = _
    rw [hv]
    exact ih hrest

theorem same_list_map {f : Value → Value} {items : List Value}
    (h : ∀ v ∈ items, same (f v) v = .ok true) :
    same (.list (items.map f)) (.list items) = .ok true := by
  rw [same_list, if_pos (List.length_map f), sameItems_map h]

theorem same_ofList?_map {P : Value → Prop} {f : Value → Value} {items? : Option (List Value)}
    (h : Optional (IsListOf P) (ofList? items?)) (hf : ∀ v, P v → same (f v) v = .ok true) :
    same (ofList? (items?.map (List.map f))) (ofList? items?) = .ok true := by
  cases items? with
  | none => rfl
  | some items => exact same_list_map fun v hv => hf v (h.forall_mem v hv)

theorem sameSequence_map {P : Value → Prop} {f : Value → Value} {items? : Option (List Value)}
    (h : Optional (IsListOf P) (ofList? items?)) (hf : ∀ v, P v → same (f v) v = .ok true) :
    sameSequence (items?.map (List.map f)) items? = .ok true := by
  cases items? with
  | none => rfl
  | some items => exact sameItems_map fun v hv => hf v (h.forall_mem v hv)

theorem sameSequence_self {P : Value → Prop} {items? : Option (List Value)}
    (h : Optional (IsListOf P) (ofList? items?)) (hP : ∀ v, P v → same v v = .ok true) :
    sameSequence items? items? = .ok true := by
  have self := sameSequence_map (f := id) h hP
  rwa [List.map_id_fun, Option.map_id_fun] at self

theorem IsListOf.same_self {P : Value → Prop} {v : Value} (h : IsListOf P v)
    (hP : ∀ w, P w → same w w = .ok true) : same v v = .ok true := by
  obtain ⟨items, rfl, each⟩ := h
  have self := same_list_map (f := id) fun w hw => hP w (each w hw)
  rwa [List.map_id] at self

end StorageMetadata.Value
