import StorageMetadata.Proofs.Resource.Layout
import StorageMetadata.Proofs.Value.Comparison

/-!
# Comparing what was written

A form distinguishes values if each of them can be written, and the comparison of what is written
for two of them ends and tells whether they are related.  The relation need not be equality: two
entities that are spelled alike are written alike.  It is an equivalence, though.  The same is said
of a codec, of what it puts at a key, and of a record in a layout:

    Tells (same (.map es) (.map fs)) (∀ i, R i (part i) (part' i)).
-/

namespace StorageMetadata.Resource

open StorageMetadata.Value

/-- Is the relation an equivalence of the values that are admitted? -/
structure EquivalenceOn (D : Value → Prop) (R : Value → Value → Prop) : Prop where
  refl : ∀ v, D v → R v v
  symm : ∀ v w, R v w → R w v
  trans : ∀ u v w, R u v → R v w → R u w

theorem equivalenceOn_eq (D : Value → Prop) : EquivalenceOn D Eq :=
  ⟨fun _ _ => rfl, fun _ _ => Eq.symm, fun _ _ _ => Eq.trans⟩

/-- Do both fields hold nothing, or are both of their values there and related? -/
def Alike (R : Value → Value → Prop) (v w : Value) : Prop :=
  v = .null ∧ w = .null ∨ v ≠ .null ∧ w ≠ .null ∧ R v w

theorem alike_eq_iff {v w : Value} : Alike Eq v w ↔ v = w := by
  constructor
  · rintro (⟨rfl, rfl⟩ | ⟨-, -, same⟩)
    · rfl
    · exact same
  · rintro rfl
    by_cases none : v = .null
    · exact Or.inl ⟨none, none⟩
    · exact Or.inr ⟨none, none, rfl⟩

theorem EquivalenceOn.alike {D : Value → Prop} {R : Value → Value → Prop} (h : EquivalenceOn D R) :
    EquivalenceOn (Optional D) (Alike R) where
  refl v hv := by
    by_cases none : v = .null
    · exact Or.inl ⟨none, none⟩
    · exact Or.inr ⟨none, none, h.refl v (hv.resolve_left none)⟩
  symm := by
    rintro v w (⟨hv, hw⟩ | ⟨hv, hw, same⟩)
    · exact Or.inl ⟨hw, hv⟩
    · exact Or.inr ⟨hw, hv, h.symm v w same⟩
  trans := by
    rintro u v w (⟨hu, hv⟩ | ⟨hu, hv, same⟩) (⟨hv', hw⟩ | ⟨hv', hw, same'⟩)
    · exact Or.inl ⟨hu, hw⟩
    · exact absurd hv hv'
    · exact absurd hv' hv
    · exact Or.inr ⟨hu, hw, h.trans u v w same same'⟩

/-- Are two lists related item by item? -/
def Listwise (R : Value → Value → Prop) (v w : Value) : Prop :=
  ∃ xs ys, v = .list xs ∧ w = .list ys ∧ List.Forall₂ R xs ys

theorem forall₂_trans {α β γ : Type} {R : α → β → Prop} {S : β → γ → Prop} {T : α → γ → Prop}
    (h : ∀ u v w, R u v → S v w → T u w) :
    ∀ {xs : List α} {ys : List β} {zs : List γ}, List.Forall₂ R xs ys → List.Forall₂ S ys zs →
      List.Forall₂ T xs zs := by
  intro xs ys zs hxy
  induction hxy generalizing zs with
  | nil =>
    intro hyz
    cases hyz
    exact .nil
  | cons first _ ih =>
    intro hyz
    cases hyz with
    | cons first' rest' => exact .cons (h _ _ _ first first') (ih rest')

theorem EquivalenceOn.listwise {D : Value → Prop} {R : Value → Value → Prop}
    (h : EquivalenceOn D R) : EquivalenceOn (IsListOf D) (Listwise R) where
  refl v := by
    rintro ⟨xs, rfl, each⟩
    exact ⟨xs, xs, rfl, rfl, List.forall₂_same.2 fun x hx => h.refl x (each x hx)⟩
  symm := by
    rintro v w ⟨xs, ys, rfl, rfl, same⟩
    exact ⟨ys, xs, rfl, rfl, same.flip.imp fun y x => h.symm x y⟩
  trans := by
    rintro u v w ⟨xs, ys, rfl, rfl, same⟩ ⟨ys', zs, hys, rfl, same'⟩
    cases hys
    exact ⟨xs, zs, rfl, rfl, forall₂_trans h.trans same same'⟩

/-! ### Forms -/

/-- Can the values be written, and does what is written tell whether they are related? -/
structure Form.Distinguishes (F : Form) (D : Value → Prop) (R : Value → Value → Prop) : Prop where
  ne_null : ∀ v, D v → v ≠ .null
  exists_encode : ∀ v, D v → ∃ s, F.encode v = .ok s
  tells : ∀ v w s t, D v → D w → F.encode v = .ok s → F.encode w = .ok t →
    Tells (s.same t) (R v w)
  equivalence : EquivalenceOn D R

namespace Form

variable {F : Form} {D : Value → Prop} {R : Value → Value → Prop}

/-- A value that is written as it is. -/
theorem distinguishes_asIs {P : Value → Prop} (ne_null : ∀ v, D v → v ≠ .null)
    (tells : ∀ v w, D v → D w → Tells (v.same w) (v = w)) : (asIs P).Distinguishes D Eq where
  ne_null := ne_null
  exists_encode v _ := ⟨v, rfl⟩
  tells v w s t hv hw hs ht := by
    cases hs
    cases ht
    exact tells v w hv hw
  equivalence := equivalenceOn_eq D

theorem distinguishes_text {P : Value → Prop} : (asIs P).Distinguishes IsText Eq := by
  refine distinguishes_asIs (fun _ h => h.ne_null) ?_
  rintro _ _ ⟨s, rfl⟩ ⟨t, rfl⟩
  exact Tells.ok_decide.congr (by simp)

theorem distinguishes_flag {P : Value → Prop} : (asIs P).Distinguishes IsFlag Eq := by
  refine distinguishes_asIs (fun _ h => h.ne_null) ?_
  rintro _ _ ⟨b, rfl⟩ ⟨c, rfl⟩
  cases b <;> cases c
  · exact Tells.ok_true rfl
  · exact Tells.ok_false (by simp)
  · exact Tells.ok_false (by simp)
  · exact Tells.ok_true rfl

theorem distinguishes_number {P : Value → Prop} : (asIs P).Distinguishes IsInteger Eq := by
  refine distinguishes_asIs (fun _ h => h.ne_null) ?_
  rintro _ _ ⟨m, rfl⟩ ⟨n, rfl⟩
  show Tells (.ok (decide (m = n))) _
  exact Tells.ok_decide.congr (by simp)

/-- Values that are written as texts and read back are told apart. -/
theorem distinguishes_of_lawful (lawful : F.Lawful)
    (text : ∀ v s, F.Typed v → F.encode v = .ok s → IsText s) : F.Distinguishes F.Typed Eq where
  ne_null := lawful.ne_null
  exists_encode v hv := (lawful.decode_encode v hv).imp fun _ h => h.1
  tells v w s t hv hw hs ht := by
    obtain ⟨s', hs', -, readS⟩ := lawful.decode_encode v hv
    obtain ⟨t', ht', -, readT⟩ := lawful.decode_encode w hw
    cases hs.symm.trans hs'
    cases ht.symm.trans ht'
    obtain ⟨a, rfl⟩ := text v s hv hs
    obtain ⟨b, rfl⟩ := text w t hw ht
    refine Tells.ok_decide.congr ⟨?_, ?_⟩
    · rintro rfl
      exact Except.ok.inj (readS.symm.trans readT)
    · rintro rfl
      cases hs.symm.trans ht
      rfl
  equivalence := equivalenceOn_eq _

theorem distinguishes_integer (key : String) : (integer key).Distinguishes IsFitting Eq :=
  distinguishes_of_lawful (lawful_integer key) fun _ _ _ h => by
    obtain ⟨text, -, rfl⟩ := Result.map_eq_ok_iff.1 h
    exact ⟨text, rfl⟩

theorem distinguishes_instant (key : String) : (instant key).Distinguishes IsInstant Eq :=
  distinguishes_of_lawful (lawful_instant key) fun _ _ _ h => by
    obtain ⟨text, -, rfl⟩ := Result.map_eq_ok_iff.1 h
    exact ⟨text, rfl⟩

theorem Distinguishes.congr {R' : Value → Value → Prop} (h : F.Distinguishes D R)
    (related : ∀ v w, D v → D w → (R v w ↔ R' v w)) (equivalence : EquivalenceOn D R') :
    F.Distinguishes D R' where
  ne_null := h.ne_null
  exists_encode := h.exists_encode
  tells v w s t hv hw hs ht := (h.tells v w s t hv hw hs ht).congr (related v w hv hw)
  equivalence := equivalence

theorem distinguishes_list (h : F.Distinguishes D R) :
    F.list.Distinguishes (IsListOf D) (Listwise R) where
  ne_null v := by
    rintro ⟨xs, rfl, -⟩
    exact Value.noConfusion
  exists_encode v := by
    rintro ⟨xs, rfl, each⟩
    obtain ⟨ws, hws⟩ := Result.exists_mapM fun x hx => h.exists_encode x (each x hx)
    exact ⟨.list ws, Result.bind_eq_ok_iff.2 ⟨ws, hws, rfl⟩⟩
  tells := by
    rintro _ _ s t ⟨xs, rfl, eachX⟩ ⟨ys, rfl, eachY⟩ hs ht
    obtain ⟨vs, hvs, hs⟩ := Result.bind_eq_ok_iff.1 hs
    obtain ⟨ws, hws, ht⟩ := Result.bind_eq_ok_iff.1 ht
    cases hs
    cases ht
    have items : Tells (same (.list vs) (.list ws)) (List.Forall₂ R xs ys) :=
      tells_list (Result.forall₂_of_mapM hvs) (Result.forall₂_of_mapM hws)
        fun x hx y hy v w => h.tells x y v w (eachX x hx) (eachY y hy)
    refine items.congr ⟨fun same => ⟨xs, ys, rfl, rfl, same⟩, ?_⟩
    rintro ⟨xs', ys', hx, hy, same⟩
    cases hx
    cases hy
    exact same
  equivalence := h.equivalence.listwise

theorem distinguishes_list_eq (h : F.Distinguishes D Eq) :
    F.list.Distinguishes (IsListOf D) Eq := by
  refine (distinguishes_list h).congr ?_ (equivalenceOn_eq _)
  rintro _ _ ⟨xs, rfl, -⟩ ⟨ys, rfl, -⟩
  constructor
  · rintro ⟨xs', ys', hx, hy, same⟩
    rw [List.forall₂_eq_eq_eq] at same
    rw [hx, hy, same]
  · intro same
    cases same
    exact ⟨xs, xs, rfl, rfl, List.forall₂_same.2 fun _ _ => rfl⟩

end Form

/-! ### Codecs -/

/-- Can the values be put at a key, and does what is put there tell whether they are related? -/
structure Codec.Distinguishes (C : Codec) (D : Value → Prop) (R : Value → Value → Prop) : Prop where
  exists_write : ∀ v, D v → ∃ s, C.write v = .ok s
  tells : ∀ v w s t, D v → D w → C.write v = .ok s → C.write w = .ok t → TellsAt s t (R v w)
  equivalence : EquivalenceOn D R

/-- A field that holds nothing is told from one that holds something. -/
theorem Form.distinguishes_optional {F : Form} {D : Value → Prop} {R : Value → Value → Prop}
    (h : F.Distinguishes D R) : F.optional.Distinguishes (Optional D) (Alike R) where
  exists_write v hv := by
    by_cases none : v = .null
    · exact ⟨.none, if_pos none⟩
    · obtain ⟨s, hs⟩ := h.exists_encode v (hv.resolve_left none)
      refine ⟨some s, ?_⟩
      simp only [optional, if_neg none, hs]
      rfl
  tells v w s t hv hw hs ht := by
    simp only [optional] at hs ht
    by_cases noneV : v = .null <;> by_cases noneW : w = .null
    · rw [if_pos noneV] at hs
      rw [if_pos noneW] at ht
      cases hs
      cases ht
      exact Or.inl ⟨noneV, noneW⟩
    · rw [if_pos noneV] at hs
      rw [if_neg noneW] at ht
      obtain ⟨b, hb, rfl⟩ := Result.map_eq_ok_iff.1 ht
      cases hs
      rintro (⟨-, null⟩ | ⟨some, -⟩)
      · exact noneW null
      · exact some noneV
    · rw [if_neg noneV] at hs
      rw [if_pos noneW] at ht
      obtain ⟨a, ha, rfl⟩ := Result.map_eq_ok_iff.1 hs
      cases ht
      rintro (⟨null, -⟩ | ⟨-, some, -⟩)
      · exact noneV null
      · exact some noneW
    · rw [if_neg noneV] at hs
      rw [if_neg noneW] at ht
      obtain ⟨a, ha, rfl⟩ := Result.map_eq_ok_iff.1 hs
      obtain ⟨b, hb, rfl⟩ := Result.map_eq_ok_iff.1 ht
      refine (h.tells v w a b (hv.resolve_left noneV) (hw.resolve_left noneW) ha hb).congr ?_
      constructor
      · exact fun same => Or.inr ⟨noneV, noneW, same⟩
      · rintro (⟨null, -⟩ | ⟨-, -, same⟩)
        · exact absurd null noneV
        · exact same
  equivalence := h.equivalence.alike

/-- Where values that are there are told apart, so are all values of the field. -/
theorem Codec.Distinguishes.eq {C : Codec} {D : Value → Prop} (h : C.Distinguishes D (Alike Eq)) :
    C.Distinguishes D Eq where
  exists_write := h.exists_write
  tells v w s t hv hw hs ht := (h.tells v w s t hv hw hs ht).congr alike_eq_iff
  equivalence := equivalenceOn_eq _

theorem Form.distinguishes_within {F : Form} {D : Value → Prop} {R : Value → Value → Prop}
    (h : F.Distinguishes D R) (inner : String) :
    (F.within inner).Distinguishes (Optional D) (Alike R) where
  exists_write v hv := by
    obtain ⟨s, hs⟩ := (distinguishes_optional h).exists_write v hv
    exact ⟨_, Result.map_eq_ok_iff.2 ⟨s, hs, rfl⟩⟩
  tells v w s t hv hw hs ht := by
    obtain ⟨a, ha, rfl⟩ := Result.map_eq_ok_iff.1 hs
    obtain ⟨b, hb, rfl⟩ := Result.map_eq_ok_iff.1 ht
    have inside := (distinguishes_optional h).tells v w a b hv hw ha hb
    cases a <;> cases b
    · exact inside
    · exact inside
    · exact inside
    · exact tells_map_singleton inside
  equivalence := h.equivalence.alike

theorem Codec.distinguishes_required (key : String) :
    (required key).Distinguishes IsText Eq where
  exists_write v _ := ⟨present v, rfl⟩
  tells := by
    rintro _ _ s t ⟨a, rfl⟩ ⟨b, rfl⟩ hs ht
    cases hs
    cases ht
    exact Tells.ok_decide.congr (by simp)
  equivalence := equivalenceOn_eq _

theorem Codec.distinguishes_clearable : Codec.clearable.Distinguishes IsClearable Eq where
  exists_write v _ := by
    cases v <;> exact ⟨_, rfl⟩
  tells := by
    rintro v w s t (rfl | rfl | ⟨a, rfl⟩) (rfl | rfl | ⟨b, rfl⟩) hs ht
    all_goals
      cases hs
      cases ht
    · rfl
    · exact Value.noConfusion
    · exact Value.noConfusion
    · exact Value.noConfusion
    · exact Tells.ok_true rfl
    · exact Tells.ok_false Value.noConfusion
    · exact Value.noConfusion
    · exact Tells.ok_false Value.noConfusion
    · exact Tells.ok_decide.congr (by simp)
  equivalence := equivalenceOn_eq _

/-! ### Records -/

namespace Layout

variable {ι : Type} {L : Layout ι}

theorem nodup_entries (slot : ι → Option Value) : ((L.entries slot).map Prod.fst).Nodup := by
  refine List.Nodup.sublist ?_ L.nodup_keys
  unfold entries
  generalize L.fields = is
  induction is with
  | nil => exact List.Sublist.refl _
  | cons i rest ih =>
    rw [List.flatMap_cons, List.map_append, List.map_cons]
    cases slot i with
    | none => exact ih.cons _
    | some v => exact ih.cons_cons _

/-- **Records in a layout are told apart field by field.** -/
theorem Writes.tells {D : ι → Value → Prop} {R : ι → Value → Value → Prop}
    (h : ∀ i, (L.codec i).Distinguishes (D i) (R i)) {part part' : ι → Value}
    {es fs : List (String × Value)} (typed : ∀ i, D i (part i)) (typed' : ∀ i, D i (part' i))
    (writes : L.Writes part es) (writes' : L.Writes part' fs) :
    Tells (same (.map es) (.map fs)) (∀ i, R i (part i) (part' i)) := by
  have nodup : (es.map Prod.fst).Nodup := by
    obtain ⟨slot, -, rfl⟩ := writes
    exact nodup_entries slot
  have nodup' : (fs.map Prod.fst).Nodup := by
    obtain ⟨slot, -, rfl⟩ := writes'
    exact nodup_entries slot
  refine (tells_map (p := fun key => ∀ i, L.key i = key → R i (part i) (part' i)) nodup nodup'
    fun key => ?_).congr ⟨fun all i => all (L.key i) i rfl, fun all key i _ => all i⟩
  by_cases known : ∃ i, L.key i = key
  · obtain ⟨i, rfl⟩ := known
    refine ((h i).tells _ _ _ _ (typed i) (typed' i) (writes.write_eq i)
      (writes'.write_eq i)).congr ⟨fun same j hj => ?_, fun all => all i rfl⟩
    rw [L.key_injective hj]
    exact same
  · have unknown : ∀ i, L.key i ≠ key := not_exists.1 known
    rw [writes.valueAt?_eq_none unknown, writes'.valueAt?_eq_none unknown]
    exact fun i hi => absurd hi (unknown i)

end Layout

end StorageMetadata.Resource
