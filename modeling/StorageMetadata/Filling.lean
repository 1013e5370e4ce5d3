import StorageMetadata.Failure

/-!
# Filling in a draft

A record is put together in a draft, step by step.  A step may fail, and there is a draft after it
either way: whatever had been put before the failure would stay.  `Filling.after` gives both, what
comes of a step and the draft after it.

A step that `Puts` something into one field looks at what it is given before it puts anything, so
that the draft is the same as before if it fails, and in every other field if it does not.
-/

namespace StorageMetadata

/-- A step in filling in a draft of the type `δ`. -/
abbrev Filling (δ : Type) := ExceptT (Failure Value) (StateM δ)

namespace Filling

variable {δ ι α β : Type}

/-- What comes of a step, and the draft after it. -/
def after (x : Filling δ α) (d : δ) : Result α × δ := x.run.run d

/-- The draft after a step, unless that fails. -/
def draft (x : Filling δ Unit) (d : δ) : Result δ := (x.after d).1.map fun _ => (x.after d).2

theorem draft_eq_ok_iff {x : Filling δ Unit} {d d' : δ} :
    x.draft d = .ok d' ↔ x.after d = (.ok (), d') := by
  unfold draft
  rcases x.after d with ⟨_ | _, next⟩ <;> simp [Except.map]

theorem after_bind (x : Filling δ α) (f : α → Filling δ β) (d : δ) :
    (x >>= f).after d = match x.after d with
      | (.ok a, d') => (f a).after d'
      | (.error e, d') => (.error e, d') := by
  simp only [after, ExceptT.run_bind, StateT.run_bind]
  rcases x.run.run d with ⟨_ | _, _⟩ <;> rfl

theorem after_bind_of_ok {x : Filling δ α} {f : α → Filling δ β} {d d' : δ} {a : α}
    (h : x.after d = (.ok a, d')) : (x >>= f).after d = (f a).after d' := by
  rw [after_bind, h]

theorem after_bind_of_error {x : Filling δ α} {f : α → Filling δ β} {d d' : δ} {e : Failure Value}
    (h : x.after d = (.error e, d')) : (x >>= f).after d = (.error e, d') := by
  rw [after_bind, h]

/-! ### Putting a value into a field -/

/-- Does a step put a value into a field and leave the others alone, or else fail and leave the
whole draft alone? -/
def Puts (get : δ → ι → Value) (f : ι) (stored : Result Value) (x : Filling δ Unit) : Prop :=
  ∀ d, match stored with
    | .error e => x.after d = (.error e, d)
    | .ok w => ∃ d', x.after d = (.ok (), d') ∧ get d' f = w ∧ ∀ g, g ≠ f → get d' g = get d g

variable {get : δ → ι → Value} {f : ι}

theorem puts_modify {put : δ → δ} {w : Value} (here : ∀ d, get (put d) f = w)
    (there : ∀ d g, g ≠ f → get (put d) g = get d g) : Puts get f (.ok w) (modify put) :=
  fun d => ⟨put d, rfl, here d, there d⟩

/-- What is put may first have to be computed from what is given. -/
theorem puts_bind {r : Result α} {w : α → Value} {put : α → δ → δ}
    (h : ∀ a, Puts get f (.ok (w a)) (modify (put a))) :
    Puts get f (r.map w) (do
      let a ← r
      modify (put a)) := by
  intro d
  cases r with
  | error e => rfl
  | ok a => exact h a d

/-- What is given may have to be something. -/
theorem puts_unless {v : Value} {e : Failure Value} {put : δ → δ}
    (h : Puts get f (.ok v) (modify put)) :
    Puts get f (if v = .null then .error e else .ok v) (do
      if v = .null then throw e
      modify put) := by
  intro d
  by_cases none : v = .null
  · simp only [none, if_true]
    rfl
  · simp only [none, if_false]
    exact h d

section After

variable {r : Result Value} {x : Filling δ Unit} (h : Puts get f r x) (d : δ)
include h

/-- Whether a step fails does not depend on the draft. -/
theorem Puts.after_fst : (x.after d).1 = r.map fun _ => () := by
  have put := h d
  cases r with
  | error e =>
    rw [show x.after d = (.error e, d) from put]
    rfl
  | ok w =>
    obtain ⟨d', hd', -⟩ := put
    rw [hd']
    rfl

/-- A step that fails leaves in the field what was there. -/
theorem Puts.get_after_self : get (x.after d).2 f = r.toOption.getD (get d f) := by
  have put := h d
  cases r with
  | error e =>
    rw [show x.after d = (.error e, d) from put]
    rfl
  | ok w =>
    obtain ⟨d', hd', here, -⟩ := put
    rw [hd']
    exact here

theorem Puts.get_after_of_ne {g : ι} (hne : g ≠ f) : get (x.after d).2 g = get d g := by
  have put := h d
  cases r with
  | error e => rw [show x.after d = (.error e, d) from put]
  | ok w =>
    obtain ⟨d', hd', -, there⟩ := put
    rw [hd']
    exact there g hne

end After

theorem Puts.of_after_ok {r : Result Value} {x : Filling δ Unit} (h : Puts get f r x) {d d' : δ}
    (hd : x.after d = (.ok (), d')) : r = .ok (get d' f) ∧ ∀ g, g ≠ f → get d' g = get d g := by
  have ended := h.after_fst d
  have here := h.get_after_self d
  rw [hd] at ended here
  cases r with
  | error e => cases ended
  | ok w =>
    refine ⟨congrArg _ here.symm, fun g hg => ?_⟩
    rw [← h.get_after_of_ne d hg, hd]

theorem Puts.of_after_error {r : Result Value} {x : Filling δ Unit} (h : Puts get f r x) {d d' : δ}
    {e : Failure Value} (hd : x.after d = (.error e, d')) : r = .error e := by
  have ended := h.after_fst d
  rw [hd] at ended
  cases r with
  | error e' =>
    cases ended
    rfl
  | ok w => cases ended

end Filling

end StorageMetadata
