import Mathlib.Data.List.Forall2
import StorageMetadata.Notice

/-!
# What a result went through

A chain of steps gives a value exactly if each step gives one, and a list is gone through with
success exactly if every item is.  The two laws on `mapM` are those that a reader and a writer of
lists inherit from the reader and the writer of an item: reading undoes writing, and what was read
is written in a normal form.

Some steps never fail with a failure that the library accounts for, only with a stray one; so do not
the chains that are made of them (`OnlyStrays`).
-/

namespace StorageMetadata

namespace Result

theorem bind_eq_ok_iff {α β : Type} {x : Result α} {f : α → Result β} {b : β} :
    (x >>= f) = .ok b ↔ ∃ a, x = .ok a ∧ f a = .ok b := by
  cases x with
  | error e => simp [bind, Except.bind]
  | ok a => simp [bind, Except.bind]

theorem bind_eq_error_iff {α β : Type} {x : Result α} {f : α → Result β} {e : Failure Value} :
    (x >>= f) = .error e ↔ x = .error e ∨ ∃ a, x = .ok a ∧ f a = .error e := by
  cases x with
  | error e' => simp [bind, Except.bind]
  | ok a => simp [bind, Except.bind]

theorem map_eq_ok_iff {α β : Type} {x : Result α} {f : α → β} {b : β} :
    x.map f = .ok b ↔ ∃ a, x = .ok a ∧ f a = b := by
  cases x with
  | error e => simp [Except.map]
  | ok a => simp [Except.map]

theorem bind_pure_eq_map {α β : Type} (x : Result α) (f : α → β) :
    (x >>= fun a => pure (f a)) = x.map f := by
  cases x <;> rfl

theorem exists_mapM {α β : Type} {f : α → Result β} :
    ∀ {xs : List α}, (∀ x ∈ xs, ∃ y, f x = .ok y) → ∃ ys, xs.mapM f = .ok ys := by
  intro xs
  induction xs with
  | nil => intro _; exact ⟨[], rfl⟩
  | cons x rest ih =>
    intro h
    obtain ⟨y, hy⟩ := h x List.mem_cons_self
    obtain ⟨ys, hys⟩ := ih fun z hz => h z (List.mem_cons_of_mem x hz)
    refine ⟨y :: ys, ?_⟩
    rw [List.mapM_cons, hy, hys]
    rfl

theorem forall₂_of_mapM {α β : Type} {f : α → Result β} :
    ∀ {xs : List α} {ys : List β}, xs.mapM f = .ok ys →
      List.Forall₂ (fun x y => f x = .ok y) xs ys := by
  intro xs
  induction xs with
  | nil =>
    intro ys h
    cases h
    exact .nil
  | cons x rest ih =>
    intro ys h
    rw [List.mapM_cons, bind_eq_ok_iff] at h
    obtain ⟨first, hfirst, h⟩ := h
    rw [bind_eq_ok_iff] at h
    obtain ⟨tail, htail, h⟩ := h
    cases h
    exact .cons hfirst (ih htail)

/-- If each item is written and read back, so is the list. -/
theorem mapM_mapM_of_inverse {α β : Type} (write : α → Result β) (read : β → Result α) :
    ∀ {xs : List α}, (∀ x ∈ xs, ∃ y, write x = .ok y ∧ read y = .ok x) →
      ∃ ys, xs.mapM write = .ok ys ∧ ys.mapM read = .ok xs := by
  intro xs
  induction xs with
  | nil => intro _; exact ⟨[], rfl, rfl⟩
  | cons x rest ih =>
    intro h
    obtain ⟨y, hw, hr⟩ := h x List.mem_cons_self
    obtain ⟨ys, hws, hrs⟩ := ih fun z hz => h z (List.mem_cons_of_mem x hz)
    refine ⟨y :: ys, ?_, ?_⟩
    · rw [List.mapM_cons, hw, hws]; rfl
    · rw [List.mapM_cons, hr, hrs]; rfl

/-- If each item that is read is written in its normal form, so is the list. -/
theorem mapM_of_normal {α β : Type} {P : α → Prop} {write : α → Result β} {read : β → Result α}
    {normal : β → β} : ∀ {ys : List β} {xs : List α}, ys.mapM read = .ok xs →
      (∀ y ∈ ys, ∀ x, read y = .ok x → P x ∧ write x = .ok (normal y)) →
        (∀ x ∈ xs, P x) ∧ xs.mapM write = .ok (ys.map normal) := by
  intro ys
  induction ys with
  | nil =>
    intro xs h _
    cases h
    exact ⟨by simp, rfl⟩
  | cons y rest ih =>
    intro xs h hitem
    rw [List.mapM_cons, bind_eq_ok_iff] at h
    obtain ⟨x, hx, h⟩ := h
    rw [bind_eq_ok_iff] at h
    obtain ⟨tail, htail, h⟩ := h
    cases h
    obtain ⟨hP, hw⟩ := hitem y List.mem_cons_self x hx
    obtain ⟨hPs, hws⟩ := ih htail fun z hz => hitem z (List.mem_cons_of_mem y hz)
    refine ⟨List.forall_mem_cons.2 ⟨hP, hPs⟩, ?_⟩
    rw [List.mapM_cons, hw, hws]
    rfl

/-- Every item of the result comes from an item of the list. -/
theorem exists_of_mem_mapM {α β : Type} {f : α → Result β} :
    ∀ {xs : List α} {ys : List β}, xs.mapM f = .ok ys → ∀ y ∈ ys, ∃ x ∈ xs, f x = .ok y := by
  intro xs
  induction xs with
  | nil =>
    intro ys h
    cases h
    simp
  | cons x rest ih =>
    intro ys h y hy
    rw [List.mapM_cons, bind_eq_ok_iff] at h
    obtain ⟨first, hfirst, h⟩ := h
    rw [bind_eq_ok_iff] at h
    obtain ⟨tail, htail, h⟩ := h
    cases h
    rcases List.mem_cons.1 hy with rfl | hy
    · exact ⟨x, List.mem_cons_self, hfirst⟩
    · obtain ⟨z, hz, found⟩ := ih htail y hy
      exact ⟨z, List.mem_cons_of_mem x hz, found⟩

/-! ### What fails first -/

/-- The failure that a computation ends with, if it fails. -/
def failure? {α : Type} : Result α → Option (Failure Value)
  | .ok _ => none
  | .error f => some f

theorem failure?_eq_some_iff {α : Type} {x : Result α} {f : Failure Value} :
    failure? x = some f ↔ x = .error f := by
  cases x <;> simp [failure?]

theorem failure?_eq_none_iff {α : Type} {x : Result α} : failure? x = none ↔ ∃ a, x = .ok a := by
  cases x <;> simp [failure?]

/-- A computation is known by what it gives and by what it fails with. -/
theorem eq_of_failure? {α : Type} {x y : Result α} (gives : ∀ a, x = .ok a ↔ y = .ok a)
    (fails : failure? x = failure? y) : x = y := by
  cases x with
  | ok a => exact ((gives a).1 rfl).symm
  | error f => exact (failure?_eq_some_iff.1 fails.symm).symm

theorem failure?_map {α β : Type} (x : Result α) (f : α → β) : failure? (x.map f) = failure? x := by
  cases x <;> rfl

/-- A chain fails with what its first step fails with, or else with what comes after it. -/
theorem failure?_bind {α β : Type} {x : Result α} {f : α → Result β}
    {first later : Option (Failure Value)} (hx : failure? x = first)
    (hf : ∀ a, x = .ok a → failure? (f a) = later) : failure? (x >>= f) = first.or later := by
  rw [← hx]
  cases x with
  | error e => rfl
  | ok a => exact hf a rfl

theorem findSome?_cons_or {α β : Type} (f : α → Option β) (x : α) (rest : List α) :
    (x :: rest).findSome? f = (f x).or (rest.findSome? f) := by
  rw [List.findSome?_cons]
  cases f x <;> rfl

/-- A list that is gone through fails with what the first item to fail does. -/
theorem failure?_mapM {α β : Type} (f : α → Result β) (xs : List α) :
    failure? (xs.mapM f) = xs.findSome? fun x => failure? (f x) := by
  induction xs with
  | nil => rfl
  | cons x rest ih =>
    have tail : ∀ y, failure? (rest.mapM f >>= fun ys => pure (y :: ys)) =
        rest.findSome? fun x => failure? (f x) := by
      intro y
      rw [← ih]
      exact congrArg failure? (bind_pure_eq_map _ _) |>.trans (failure?_map _ _)
    rw [List.mapM_cons, failure?_bind rfl fun y _ => tail y, findSome?_cons_or]

/-- Do two computations fail with the same failure, or else give results that are related? -/
inductive Related {α β : Type} (R : α → β → Prop) : Result α → Result β → Prop
  | error (f : Failure Value) : Related R (.error f) (.error f)
  | ok {a : α} {b : β} : R a b → Related R (.ok a) (.ok b)

theorem related_iff {α β : Type} {R : α → β → Prop} {x : Result α} {y : Result β} :
    Related R x y ↔
      failure? x = failure? y ∧ ∀ a b, x = .ok a → y = .ok b → R a b := by
  constructor
  · intro h
    cases h with
    | error f => exact ⟨rfl, fun _ _ h => nomatch h⟩
    | ok h =>
      refine ⟨rfl, ?_⟩
      rintro a b ⟨⟩ ⟨⟩
      exact h
  · rintro ⟨same, related⟩
    cases x with
    | error f =>
      cases y with
      | error g =>
        cases same
        exact .error f
      | ok b => cases same
    | ok a =>
      cases y with
      | error g => cases same
      | ok b => exact .ok (related a b rfl rfl)

theorem related_of_eq {α : Type} {R : α → α → Prop} {x y : Result α} (h : x = y)
    (refl : ∀ a, R a a) : Related R x y := by
  subst h
  cases x with
  | error f => exact .error f
  | ok a => exact .ok (refl a)

/-! ### Stray failures -/

/-- Is every failure of the computation a stray one? -/
def OnlyStrays {α : Type} (x : Result α) : Prop := ∀ f, x = .error f → ¬f.isAccountedFor

theorem onlyStrays_ok {α : Type} (a : α) : OnlyStrays (.ok a : Result α) := by
  intro f h
  cases h

section

variable {α β : Type} {x : Result α}

theorem OnlyStrays.bind {f : α → Result β} (hx : OnlyStrays x) (hf : ∀ a, OnlyStrays (f a)) :
    OnlyStrays (x >>= f) := by
  intro e h
  rcases bind_eq_error_iff.1 h with h | ⟨a, -, h⟩
  · exact hx e h
  · exact hf a e h

theorem OnlyStrays.map (hx : OnlyStrays x) (f : α → β) : OnlyStrays (x.map f) := by
  rw [← bind_pure_eq_map]
  exact hx.bind fun a => onlyStrays_ok (f a)

end

end Result

@[simp] theorem Traced.result_liftM {α : Type} (r : Result α) : (liftM r : Traced α).result = r :=
  rfl

@[simp] theorem Traced.result_ite {α : Type} (p : Prop) [Decidable p] (x y : Traced α) :
    (if p then x else y).result = if p then x.result else y.result := by
  split <;> rfl

theorem Traced.result_bind_pure {α β : Type} (x : Traced α) (f : α → β) :
    (x >>= fun a => pure (f a)).result = x.result.map f := by
  rw [result_bind]
  exact Result.bind_pure_eq_map _ _

/-- The remarks that are made while a list is gone through leave its result alone. -/
theorem Traced.result_mapM {α β : Type} (f : α → Traced β) (xs : List α) :
    (xs.mapM f).result = xs.mapM fun x => (f x).result := by
  induction xs with
  | nil => rfl
  | cons x rest ih => simp only [List.mapM_cons, Traced.result_bind, ih, Traced.result_pure]; rfl

end StorageMetadata
