import Mathlib.Data.List.Perm.Subperm
import StorageMetadata.Proofs.Result
import StorageMetadata.Proofs.Value.Kinds

/-!
# What a comparison tells

A comparison of two values may fail, and it goes through lists and maps step by step.  `Tells x p`
says that the comparison `x` ends and that its answer is whether `p` holds.  Two lists are compared
item by item, and two maps, with one entry for each key, by what is at each key:

    Tells (same (.map es) (.map fs)) (∀ key, p key)

if at every key either both have nothing and `p key` holds, or one has nothing and it does not, or
the comparison of both values tells `p key`.
-/

namespace StorageMetadata

/-- Does the comparison end, with the answer whether the statement holds? -/
def Tells (x : Result Bool) (p : Prop) : Prop := ∃ b, x = .ok b ∧ (b = true ↔ p)

namespace Tells

variable {x y : Result Bool} {p q : Prop}

theorem eq_true_iff (h : Tells x p) : x = .ok true ↔ p := by
  obtain ⟨b, rfl, hb⟩ := h
  rw [Except.ok.injEq]
  exact hb

theorem congr (h : Tells x p) (hpq : p ↔ q) : Tells x q :=
  h.imp fun _ hb => ⟨hb.1, hb.2.trans hpq⟩

theorem ok_decide [Decidable p] : Tells (.ok (decide p)) p := ⟨_, rfl, decide_eq_true_iff⟩

theorem ok_true (h : p) : Tells (.ok true) p := ⟨true, rfl, fun _ => h, fun _ => rfl⟩

theorem ok_false (h : ¬ p) : Tells (.ok false) p :=
  ⟨false, rfl, fun e => Bool.noConfusion e, fun hp => absurd hp h⟩

/-- A comparison in two steps stops at the first difference. -/
theorem and (hx : Tells x p) (hy : Tells y q) :
    Tells (do if ← x then y else return false) (p ∧ q) := by
  obtain ⟨b, rfl, hb⟩ := hx
  cases b with
  | true => exact hy.congr (and_iff_right (hb.1 rfl)).symm
  | false => exact ok_false fun h => Bool.noConfusion (hb.2 h.1)

end Tells

/-- Does a comparison of what is at a key tell whether the statement holds? -/
def TellsAt : Option Value → Option Value → Prop → Prop
  | none, none, p => p
  | some v, some w, p => Tells (v.same w) p
  | _, _, p => ¬ p

theorem TellsAt.congr {s t : Option Value} {p q : Prop} (h : TellsAt s t p) (hpq : p ↔ q) :
    TellsAt s t q := by
  cases s <;> cases t
  · exact hpq.1 h
  · exact fun hq => h (hpq.2 hq)
  · exact fun hq => h (hpq.2 hq)
  · exact Tells.congr h hpq

namespace Value

/-! ### Lists -/

theorem tells_sameItems {α : Type} {wire : α → Value → Prop} {R : α → α → Prop} :
    ∀ {xs ys : List α} {vs ws : List Value}, List.Forall₂ wire xs vs → List.Forall₂ wire ys ws →
      xs.length = ys.length →
      (∀ x ∈ xs, ∀ y ∈ ys, ∀ v w, wire x v → wire y w → Tells (same v w) (R x y)) →
      Tells (sameItems vs ws) (List.Forall₂ R xs ys) := by
  intro xs ys vs ws hx
  induction hx generalizing ys ws with
  | nil =>
    intro hy length _
    cases hy with
    | nil => exact Tells.ok_true .nil
    | cons => cases length
  | cons first rest ih =>
    intro hy length tells
    cases hy with
    | nil => cases length
    | cons first' rest' =>
      rw [List.forall₂_cons]
      exact (tells _ List.mem_cons_self _ List.mem_cons_self _ _ first first').and
        (ih rest' (Nat.succ.inj length) fun x hx y hy =>
          tells x (List.mem_cons_of_mem _ hx) y (List.mem_cons_of_mem _ hy))

/-- Lists tell whether their items do, one by one. -/
theorem tells_list {α : Type} {wire : α → Value → Prop} {R : α → α → Prop} {xs ys : List α}
    {vs ws : List Value} (hx : List.Forall₂ wire xs vs) (hy : List.Forall₂ wire ys ws)
    (tells : ∀ x ∈ xs, ∀ y ∈ ys, ∀ v w, wire x v → wire y w → Tells (same v w) (R x y)) :
    Tells (same (.list vs) (.list ws)) (List.Forall₂ R xs ys) := by
  rw [same_list, ← hx.length_eq, ← hy.length_eq]
  by_cases length : xs.length = ys.length
  · rw [if_pos length]
    exact tells_sameItems hx hy length tells
  · rw [if_neg length]
    exact Tells.ok_false fun h => length h.length_eq

/-! ### Maps -/

theorem valueAt?_eq_none_iff {key : String} {es : List (String × Value)} :
    valueAt? key es = none ↔ key ∉ es.map Prod.fst := by
  induction es with
  | nil => simp
  | cons e rest ih =>
    obtain ⟨k, v⟩ := e
    by_cases h : k = key
    · simp [valueAt?_cons, h]
    · simp [valueAt?_cons, h, ih, Ne.symm h]

theorem valueAt?_of_mem {es : List (String × Value)} (nodup : (es.map Prod.fst).Nodup)
    {e : String × Value} (he : e ∈ es) : valueAt? e.1 es = some e.2 := by
  induction es with
  | nil => cases he
  | cons first rest ih =>
    obtain ⟨fresh, nodup⟩ := List.nodup_cons.1 nodup
    rcases List.mem_cons.1 he with rfl | he
    · exact if_pos rfl
    · have other : first.1 ≠ e.1 := fun same => fresh (List.mem_map.2 ⟨e, he, same.symm⟩)
      exact (if_neg other).trans (ih nodup he)

theorem sameEntry_of_none {key : String} {v : Value} {fs : List (String × Value)}
    (h : valueAt? key fs = none) : sameEntry (key, v) fs = .ok false := by
  simp only [sameEntry, h]

theorem sameEntry_of_some {key : String} {v w : Value} {fs : List (String × Value)}
    (h : valueAt? key fs = some w) : sameEntry (key, v) fs = same v w := by
  simp only [sameEntry, h]

theorem tells_sameEntries {fs : List (String × Value)} {p : String → Prop} :
    ∀ {es : List (String × Value)}, (∀ e ∈ es, Tells (sameEntry e fs) (p e.1)) →
      Tells (sameEntries es fs) (∀ e ∈ es, p e.1) := by
  intro es
  induction es with
  | nil => intro _; exact Tells.ok_true (by simp)
  | cons e rest ih =>
    intro h
    obtain ⟨first, others⟩ := List.forall_mem_cons.1 h
    rw [List.forall_mem_cons]
    exact first.and (ih others)

/-- Where the statement holds, a key of one map is a key of the other. -/
theorem mem_keys_iff {es fs : List (String × Value)} {key : String} {p : Prop}
    (h : TellsAt (valueAt? key es) (valueAt? key fs) p) (hp : p) :
    key ∈ es.map Prod.fst ↔ key ∈ fs.map Prod.fst := by
  rw [← not_iff_not, ← valueAt?_eq_none_iff, ← valueAt?_eq_none_iff]
  cases hs : valueAt? key es <;> cases ht : valueAt? key fs <;> simp only [hs, ht] at h ⊢
  · exact absurd hp h
  · exact absurd hp h
  · simp

theorem tells_sameEntry {key : String} {v : Value} {fs : List (String × Value)} {p : Prop}
    (h : TellsAt (some v) (valueAt? key fs) p) : Tells (sameEntry (key, v) fs) p := by
  cases ht : valueAt? key fs with
  | none =>
    rw [ht] at h
    rw [sameEntry_of_none ht]
    exact Tells.ok_false h
  | some w =>
    rw [ht] at h
    rw [sameEntry_of_some ht]
    exact h

/-- Maps with one entry for each key tell whether their values do, key by key. -/
theorem tells_map {es fs : List (String × Value)} (hes : (es.map Prod.fst).Nodup)
    (hfs : (fs.map Prod.fst).Nodup) {p : String → Prop}
    (h : ∀ key, TellsAt (valueAt? key es) (valueAt? key fs) (p key)) :
    Tells (same (.map es) (.map fs)) (∀ key, p key) := by
  show Tells (if es.length = fs.length then sameEntries es fs else .ok false) _
  by_cases length : es.length = fs.length
  · rw [if_pos length]
    refine (tells_sameEntries (p := p) fun e he => ?_).congr
      ⟨fun each key => ?_, fun all e _ => all e.1⟩
    · have found := h e.1
      rw [valueAt?_of_mem hes he] at found
      exact tells_sameEntry found
    · -- All keys of the first map are keys of the second, and there are as many.
      have subset : es.map Prod.fst ⊆ fs.map Prod.fst := by
        intro k hk
        obtain ⟨e, he, rfl⟩ := List.mem_map.1 hk
        exact (mem_keys_iff (h e.1) (each e he)).1 hk
      have perm : (es.map Prod.fst).Perm (fs.map Prod.fst) :=
        (List.subperm_of_subset hes subset).perm_of_length_le (by simp [length])
      by_cases hk : key ∈ es.map Prod.fst
      · obtain ⟨e, he, rfl⟩ := List.mem_map.1 hk
        exact each e he
      · have found := h key
        rw [valueAt?_eq_none_iff.2 hk,
          valueAt?_eq_none_iff.2 fun hk' => hk (perm.mem_iff.2 hk')] at found
        exact found
  · rw [if_neg length]
    refine Tells.ok_false fun all => length ?_
    have perm : (es.map Prod.fst).Perm (fs.map Prod.fst) :=
      (List.perm_ext_iff_of_nodup hes hfs).2 fun key => mem_keys_iff (h key) (all key)
    simpa using perm.length_eq

theorem mem_of_valueAt? {key : String} {v : Value} {es : List (String × Value)}
    (h : valueAt? key es = some v) : (key, v) ∈ es := by
  induction es with
  | nil => cases h
  | cons e rest ih =>
    obtain ⟨k, w⟩ := e
    by_cases hk : k = key
    · rw [valueAt?_cons, if_pos hk] at h
      cases h
      rw [hk]
      exact List.mem_cons_self
    · rw [valueAt?_cons, if_neg hk] at h
      exact List.mem_cons_of_mem _ (ih h)

/-- Are these texts by key, one for each key? -/
def IsDictionary (es : List (String × Value)) : Prop := AreTexts es ∧ (es.map Prod.fst).Nodup

/-- Texts by key are told apart by what is at each key. -/
theorem tells_dictionary {es fs : List (String × Value)} (hes : IsDictionary es)
    (hfs : IsDictionary fs) :
    Tells (same (.map es) (.map fs)) (∀ key, valueAt? key es = valueAt? key fs) := by
  refine tells_map hes.2 hfs.2 fun key => ?_
  cases hs : valueAt? key es with
  | none => cases ht : valueAt? key fs <;> simp [TellsAt]
  | some v =>
    cases ht : valueAt? key fs with
    | none => simp [TellsAt]
    | some w =>
      obtain ⟨a, rfl⟩ : IsText v := hes.1 _ (mem_of_valueAt? hs)
      obtain ⟨b, rfl⟩ : IsText w := hfs.1 _ (mem_of_valueAt? ht)
      exact Tells.ok_decide.congr (by simp)

theorem tells_map_singleton {key : String} {v w : Value} {p : Prop} (h : Tells (same v w) p) :
    Tells (same (.map [(key, v)]) (.map [(key, w)])) p := by
  have found : valueAt? key [(key, w)] = some w := if_pos rfl
  show Tells (do if ← sameEntry (key, v) [(key, w)] then .ok true else return false) p
  rw [sameEntry_of_some found]
  exact (h.and (Tells.ok_true trivial)).congr (and_iff_left trivial)

end Value

end StorageMetadata
