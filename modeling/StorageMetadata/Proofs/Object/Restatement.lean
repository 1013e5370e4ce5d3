import StorageMetadata.Proofs.Object.Failure
import StorageMetadata.Proofs.Resource.Comparison

/-!
# Resources that say the same of an object

A resource may be written in many ways: its entries in another order, with entries that nothing
reads, and with a missing entry where another one has an entry with nothing in it.  `Restates` says
that two resources differ in no other way.  They are then read alike: both fail, and with the same
failure, or both are read as objects that hold the same in every field, but for the order of the
user's metadata and for what is cleared in one and unset in the other (`Field.SeenAs`).
-/

namespace StorageMetadata

open StorageMetadata.Resource StorageMetadata.Result

namespace Value

/-- Are these maps with the same at each of the keys? -/
def AgreeAt (keys : List String) (v w : Value) : Prop :=
  ∃ es fs, v = .map es ∧ w = .map fs ∧
    ∀ key ∈ keys, (valueAt? key es).getD .null = (valueAt? key fs).getD .null

/-- Are these maps with the same entries, in any order? -/
def Permuted (v w : Value) : Prop := ∃ es fs, v = .map es ∧ w = .map fs ∧ es.Perm fs

end Value

namespace Object

open StorageMetadata.Value

/-! ### Two ways to say the same -/

/-- Do two values at the key of a field say the same? -/
def Field.SaysSame : Field → Value → Value → Prop
  | .owner => AgreeAt ["entity"]
  | .acl => Listwise (AgreeAt ["entity", "role"])
  | .metadata => Permuted
  | _ => Eq

/-- Do two resources say the same of an object?  Nothing counts as a missing entry. -/
def Restates (es fs : List (String × Value)) : Prop :=
  ∀ f : Field, Alike f.SaysSame ((valueAt? f.key es).getD .null) ((valueAt? f.key fs).getD .null)

/-- Do two values of a field look the same from outside? -/
def Field.SeenAs : Field → Value → Value → Prop
  | .metadata => Alike Permuted
  | .cacheControl | .contentType | .contentEncoding | .contentDisposition =>
    fun v w => collapse v = collapse w
  | .contentLanguage | .md5 | .crc32c => fun v w => collapse v = collapse w
  | _ => Eq

/-! ### Reading the same twice -/

theorem required_read_congr (key : String) {s t : Option Value}
    (h : s.getD .null = t.getD .null) :
    (Codec.required key).read s = (Codec.required key).read t := by
  simp only [Codec.required, h]

theorem optional_read_congr {F : Form} {s t : Option Value} (h : s.getD .null = t.getD .null) :
    F.optional.read s = F.optional.read t := by
  simp only [Form.optional, h]

/-- A section is read from what is at its inner key. -/
theorem within_read_congr {F : Form} {inner : String} {s t : Option Value}
    (h : Alike (AgreeAt [inner]) (s.getD .null) (t.getD .null)) :
    (F.within inner).read s = (F.within inner).read t := by
  rcases h with ⟨hs, ht⟩ | ⟨-, -, es, fs, hes, hfs, agree⟩
  · simp only [Form.within, hs, ht]
  · simp only [Form.within, hes, hfs, reduceCtorEq, if_false]
    show F.optional.read (some ((valueAt? inner es).getD .null)) =
      F.optional.read (some ((valueAt? inner fs).getD .null))
    rw [agree inner (by simp)]

theorem mapM_congr {f : Value → Result Value} {R : Value → Value → Prop}
    (h : ∀ v w, R v w → f v = f w) {xs ys : List Value} (related : List.Forall₂ R xs ys) :
    xs.mapM f = ys.mapM f := by
  induction related with
  | nil => rfl
  | cons first _ ih => rw [List.mapM_cons, List.mapM_cons, h _ _ first, ih]

theorem list_optional_read_congr {F : Form} {R : Value → Value → Prop}
    (item : ∀ v w, R v w → F.decode v = F.decode w) {s t : Option Value}
    (h : Alike (Listwise R) (s.getD .null) (t.getD .null)) :
    F.list.optional.read s = F.list.optional.read t := by
  rcases h with ⟨hs, ht⟩ | ⟨-, -, xs, ys, hxs, hys, each⟩
  · simp only [Form.optional, hs, ht]
  · simp only [Form.optional, hxs, hys, reduceCtorEq, if_false, Form.list, Value.items]
    show (xs.mapM F.decode >>= _) = (ys.mapM F.decode >>= _)
    rw [mapM_congr item each]

/-- A grant is read from its entity and its role. -/
theorem grant_decode_congr {v w : Value} (h : AgreeAt ["entity", "role"] v w) :
    Grant.form.decode v = Grant.form.decode w := by
  obtain ⟨es, fs, rfl, rfl, agree⟩ := h
  have entity := required_read_congr "entity" (agree "entity" (by simp))
  have role := required_read_congr "role" (agree "role" (by simp))
  simp only [Grant.form, Grant.result_decode_map, entity, role]

theorem metadata_read {s t : Option Value}
    (h : Alike Permuted (s.getD .null) (t.getD .null)) :
    Related (Alike Permuted) (metadataForm.optional.read s) (metadataForm.optional.read t) := by
  rcases h with ⟨hs, ht⟩ | ⟨-, -, es, fs, hes, hfs, same⟩
  · simp only [Form.optional, hs, ht]
    exact .ok (Or.inl ⟨rfl, rfl⟩)
  · simp only [Form.optional, hes, hfs, reduceCtorEq, if_false]
    exact .ok (Or.inr ⟨Value.noConfusion, Value.noConfusion, es, fs, rfl, rfl, same⟩)

/-- What is cleared in one and unset in the other looks the same. -/
theorem clearable_read {s t : Option Value} (h : s.getD .null = t.getD .null) :
    Related (fun v w => collapse v = collapse w) (Codec.clearable.read s)
      (Codec.clearable.read t) := by
  have seen : ∀ s : Option Value,
      ∃ v, Codec.clearable.read s = .ok v ∧ collapse v = collapse (s.getD .null) := by
    intro s
    cases s with
    | none => exact ⟨.null, rfl, rfl⟩
    | some w => exact ⟨clearable w, rfl, collapse_clearable w⟩
  obtain ⟨v, hv, hs⟩ := seen s
  obtain ⟨w, hw, ht⟩ := seen t
  rw [hv, hw]
  exact .ok (by rw [hs, ht, h])

theorem related_read (f : Field) {s t : Option Value}
    (h : Alike f.SaysSame (s.getD .null) (t.getD .null)) :
    Related f.SeenAs (f.codec.read s) (f.codec.read t) := by
  cases f with
  | bucket | name => exact related_of_eq (required_read_congr _ (alike_eq_iff.1 h)) fun _ => rfl
  | owner => exact related_of_eq (within_read_congr h) fun _ => rfl
  | acl =>
    exact related_of_eq (list_optional_read_congr (fun _ _ => grant_decode_congr) h) fun _ => rfl
  | metadata => exact metadata_read h
  | cacheControl | contentType | contentEncoding | contentDisposition | contentLanguage | md5
  | crc32c => exact clearable_read (alike_eq_iff.1 h)
  | _ => exact related_of_eq (optional_read_congr (alike_eq_iff.1 h)) fun _ => rfl

/-- **Resources that say the same are read alike.** -/
theorem decode_restated {es fs : List (String × Value)} (h : Restates es fs) :
    Related (fun o p : Object => ∀ f : Field, f.SeenAs (o.toDraft.get f) (p.toDraft.get f))
      (decode (.map es)).result (decode (.map fs)).result := by
  have read : ∀ f : Field, Related f.SeenAs (f.codec.read (valueAt? f.key es))
      (f.codec.read (valueAt? f.key fs)) := fun f => related_read f (h f)
  refine related_iff.2 ⟨?_, fun o p ho hp f => ?_⟩
  · rw [failure?_decode, failure?_decode, funext fun f => (related_iff.1 (read f)).1]
  · exact (related_iff.1 (read f)).2 _ _ (decode_map_eq_ok_iff.1 ho f) (decode_map_eq_ok_iff.1 hp f)

end Object

end StorageMetadata
