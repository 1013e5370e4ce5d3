import Mathlib.Data.List.Find
import StorageMetadata.Filling

/-!
# Calls on a builder

Callers fill in a draft in any order, and may finish it at any point, as often as they like.  A call
may fail, and those after it are made all the same.  `Builder.history` is the list of the calls with
what came of each, and `lastPut?` is what was last put into a field by a call that did not fail.

A builder is `Lawful` if each call that fills in a field puts its value there, or else leaves the
draft alone, and finishing only looks at the draft.  Then a field of the draft holds what was last
put into it (`holds_draftAfter`), and so does the record that is built.
-/

namespace StorageMetadata

open Filling

/-- How records of a kind are put together, with fields `ι`, drafts `δ` and records `ρ`. -/
structure Builder (ι δ ρ : Type) where
  empty : δ
  get : δ → ι → Value
  fill : ι → Value → Filling δ Unit
  finish : Filling δ ρ
  /-- Puts the fields of a record into a draft. -/
  refill : ρ → Filling δ Unit
  /-- What a field of a record holds. -/
  part : ρ → ι → Value
  /-- What a field holds after a value has been put into it. -/
  stored : ι → Value → Result Value
  /-- The fields that have to be there, in the order in which they are asked for. -/
  required : List ι
  label : ι → String

/-- What callers can do with a draft. -/
inductive Call (ι : Type) where
  | fill (f : ι) (v : Value)
  | finish

namespace Builder

variable {ι δ ρ : Type}

/-- What was last put into a field by a call that did not fail. -/
def lastPut? [DecidableEq ι] (f : ι) : List (Call ι × Result (Option ρ)) → Option Value
  | [] => none
  | (.fill g v, .ok _) :: later => (lastPut? f later).or (if g = f then some v else none)
  | _ :: later => lastPut? f later

variable (B : Builder ι δ ρ)

/-- A call on a draft.  Only finishing gives a record. -/
def call : Call ι → Filling δ (Option ρ)
  | .fill f v => do
    B.fill f v
    return none
  | .finish => return some (← B.finish)

/-- The draft after some calls. -/
def draftAfter : List (Call ι) → δ → δ
  | [], d => d
  | c :: later, d => draftAfter later ((B.call c).after d).2

/-- The calls, with what came of each. -/
def history : List (Call ι) → δ → List (Call ι × Result (Option ρ))
  | [], _ => []
  | c :: later, d => (c, ((B.call c).after d).1) :: history later ((B.call c).after d).2

/-- What finishing gives after some calls on an empty draft. -/
def answer (calls : List (Call ι)) : Result ρ := (B.finish.after (B.draftAfter calls B.empty)).1

/-- Is this what a field holds, given what was last put into it? -/
def Holds (f : ι) (w : Value) : Option Value → Prop
  | none => w = .null
  | some v => B.stored f v = .ok w

/-- What finishing has to give for a draft. -/
def Finishes (d : δ) : Prop :=
  match B.required.find? fun f => (B.get d f).isNull with
  | some f => B.finish.after d = (.error (.missingField (B.label f)), d)
  | none => ∃ r, B.finish.after d = (.ok r, d) ∧ ∀ f, B.part r f = B.get d f

/-- Does each call do what it is made for, and nothing else? -/
structure Lawful : Prop where
  get_empty : ∀ f, B.get B.empty f = .null
  ext : ∀ d e, (∀ f, B.get d f = B.get e f) → d = e
  puts : ∀ f v, Puts B.get f (B.stored f v) (B.fill f v)
  /-- Nothing cannot be put into a field that has to be there. -/
  ne_null : ∀ f ∈ B.required, ∀ v w, B.stored f v = .ok w → w ≠ .null
  finishes : ∀ d, B.Finishes d

/-- How a builder keeps account of the calls that are made on it.  That calls add to the history and
change nothing in it (`append`, `next`) is so with every builder; the rest depends on what its calls
do. -/
structure Accounts [DecidableEq ι] : Prop where
  /-- A call that fails leaves the draft as it was. -/
  failed : ∀ c d e, ((B.call c).after d).1 = .error e → ((B.call c).after d).2 = d
  /-- Finishing leaves the draft as it was in any case. -/
  finished : ∀ d, ((B.call .finish).after d).2 = d
  /-- What has come of a call stays, whatever is called next. -/
  append : ∀ calls later d,
    B.history (calls ++ later) d = B.history calls d ++ B.history later (B.draftAfter calls d)
  /-- What finishing gives after some calls is the next thing in their history. -/
  next : ∀ calls, B.history (calls ++ [.finish]) B.empty =
    B.history calls B.empty ++ [(.finish, (B.answer calls).map some)]
  /-- Finishing fails for the first field that has to be there and was never put. -/
  missing : ∀ calls f,
    (B.required.find? fun f => (lastPut? f (B.history calls B.empty)).isNone) = some f →
      B.answer calls = .error (.missingField (B.label f))
  /-- Otherwise each field of the record holds what was last put into it. -/
  holds : ∀ calls, (∀ f ∈ B.required, (lastPut? f (B.history calls B.empty)).isSome) →
    ∃ r, B.answer calls = .ok r ∧
      ∀ f, B.Holds f (B.part r f) (lastPut? f (B.history calls B.empty))
  /-- Two fields can be filled in in either order. -/
  commute : ∀ f g v w d, f ≠ g →
    B.draftAfter [.fill f v, .fill g w] d = B.draftAfter [.fill g w, .fill f v] d ∧
      B.history [.fill f v, .fill g w] d = (B.history [.fill g w, .fill f v] d).reverse

variable {B}

/-! ### One call -/

theorem call_fill_after (f : ι) (v : Value) (d : δ) :
    (B.call (.fill f v)).after d =
      (((B.fill f v).after d).1.map fun _ => none, ((B.fill f v).after d).2) := by
  rw [call, after_bind]
  rcases (B.fill f v).after d with ⟨_ | _, _⟩ <;> rfl

theorem call_finish_after (d : δ) :
    (B.call .finish).after d = ((B.finish.after d).1.map some, (B.finish.after d).2) := by
  rw [call, after_bind]
  rcases B.finish.after d with ⟨_ | _, _⟩ <;> rfl

namespace Lawful

variable (lawful : B.Lawful) (f g : ι) (v : Value) (d : δ)
include lawful

theorem call_fill_fst :
    ((B.call (.fill f v)).after d).1 = (B.stored f v).map fun _ => none := by
  rw [call_fill_after, (lawful.puts f v).after_fst]
  cases B.stored f v <;> rfl

theorem get_call_fill_self :
    B.get ((B.call (.fill f v)).after d).2 f = (B.stored f v).toOption.getD (B.get d f) := by
  rw [call_fill_after]
  exact (lawful.puts f v).get_after_self d

theorem get_call_fill_of_ne {f g : ι} (hne : g ≠ f) :
    B.get ((B.call (.fill f v)).after d).2 g = B.get d g := by
  rw [call_fill_after]
  exact (lawful.puts f v).get_after_of_ne d hne

theorem finish_after_snd : (B.finish.after d).2 = d := by
  have finishes := lawful.finishes d
  unfold Finishes at finishes
  split at finishes
  · rw [finishes]
  · obtain ⟨r, hr, -⟩ := finishes
    rw [hr]

theorem call_finish_after_snd : ((B.call .finish).after d).2 = d := by
  rw [call_finish_after]
  exact lawful.finish_after_snd d

theorem call_after_snd_of_error {c : Call ι} {d : δ} {e : Failure Value}
    (h : ((B.call c).after d).1 = .error e) : ((B.call c).after d).2 = d := by
  cases c with
  | finish => exact lawful.call_finish_after_snd d
  | fill f v =>
    refine lawful.ext _ _ fun g => ?_
    by_cases hg : g = f
    · subst hg
      rw [lawful.call_fill_fst] at h
      rw [lawful.get_call_fill_self]
      cases hs : B.stored g v with
      | error e => rfl
      | ok w => rw [hs] at h; cases h
    · exact lawful.get_call_fill_of_ne v d hg

end Lawful

/-! ### Some calls -/

theorem history_append (calls later : List (Call ι)) (d : δ) :
    B.history (calls ++ later) d =
      B.history calls d ++ B.history later (B.draftAfter calls d) := by
  induction calls generalizing d with
  | nil => rfl
  | cons c rest ih => exact congrArg _ (ih _)

theorem lastPut?_cons [DecidableEq ι] (f : ι) (e : Call ι × Result (Option ρ))
    (later : List (Call ι × Result (Option ρ))) :
    lastPut? f (e :: later) = (lastPut? f later).or (lastPut? f [e]) := by
  rcases e with ⟨_ | _, _ | _⟩
  · exact Option.or_none.symm
  · rfl
  · exact Option.or_none.symm
  · exact Option.or_none.symm

/-- Does a field hold what was put into it, or else what it had held before? -/
def Becomes (B : Builder ι δ ρ) (f : ι) (d d' : δ) : Option Value → Prop
  | none => B.get d' f = B.get d f
  | some v => B.stored f v = .ok (B.get d' f)

theorem Becomes.trans {f : ι} {d d' d'' : δ} {p q : Option Value} (h : B.Becomes f d d' p)
    (h' : B.Becomes f d' d'' q) : B.Becomes f d d'' (q.or p) := by
  -- What is put later on counts; only without that does it matter what was put before.
  cases q with
  | some v => exact h'
  | none =>
    rw [Option.none_or]
    cases p with
    | none => exact Eq.trans h' h
    | some v => exact Eq.trans h (congrArg _ h'.symm)

namespace Lawful

variable [DecidableEq ι] (lawful : B.Lawful)
include lawful

theorem becomes_call (f : ι) (c : Call ι) (d : δ) :
    B.Becomes f d ((B.call c).after d).2 (lastPut? f [(c, ((B.call c).after d).1)]) := by
  cases c with
  | finish => exact congrArg (B.get · f) (lawful.call_finish_after_snd d)
  | fill g v =>
    rw [lawful.call_fill_fst]
    by_cases hg : g = f
    · subst hg
      have kept := lawful.get_call_fill_self g v d
      cases hs : B.stored g v with
      | error e =>
        rw [hs] at kept
        exact kept
      | ok w =>
        rw [hs] at kept
        simp only [Except.map, lastPut?, if_true, Option.none_or]
        exact hs.trans (congrArg _ kept.symm)
    · have kept := lawful.get_call_fill_of_ne v d (Ne.symm hg)
      cases hs : B.stored g v with
      | error e => exact kept
      | ok w =>
        simp only [Except.map, lastPut?, if_neg hg, Option.none_or]
        exact kept

/-- After some calls a field holds what was last put into it. -/
theorem becomes_draftAfter (f : ι) (calls : List (Call ι)) (d : δ) :
    B.Becomes f d (B.draftAfter calls d) (lastPut? f (B.history calls d)) := by
  induction calls generalizing d with
  | nil => rfl
  | cons c later ih =>
    rw [history, lastPut?_cons]
    exact (lawful.becomes_call f c d).trans (ih _)

theorem holds_draftAfter (f : ι) (calls : List (Call ι)) :
    B.Holds f (B.get (B.draftAfter calls B.empty) f) (lastPut? f (B.history calls B.empty)) := by
  have becomes := lawful.becomes_draftAfter f calls B.empty
  cases hl : lastPut? f (B.history calls B.empty) with
  | none =>
    rw [hl] at becomes
    exact Eq.trans becomes (lawful.get_empty f)
  | some v =>
    rw [hl] at becomes
    exact becomes

/-- A field that has to be there holds nothing as long as nothing was put into it. -/
theorem isNull_draftAfter {f : ι} (hf : f ∈ B.required) (calls : List (Call ι)) :
    (B.get (B.draftAfter calls B.empty) f).isNull =
      (lastPut? f (B.history calls B.empty)).isNone := by
  have holds := lawful.holds_draftAfter f calls
  cases hl : lastPut? f (B.history calls B.empty) with
  | none =>
    rw [hl] at holds
    exact Value.isNull_eq_true_iff.2 holds
  | some v =>
    rw [hl] at holds
    exact Value.isNull_eq_false_iff.2 (lawful.ne_null f hf v _ holds)

theorem find?_draftAfter (calls : List (Call ι)) :
    (B.required.find? fun f => (B.get (B.draftAfter calls B.empty) f).isNull) =
      B.required.find? fun f => (lastPut? f (B.history calls B.empty)).isNone :=
  List.find?_congr fun _ hf => lawful.isNull_draftAfter hf calls

/-- A record that was built has the fields of the draft. -/
theorem holds_of_answer {calls : List (Call ι)} {r : ρ} (h : B.answer calls = .ok r) (f : ι) :
    B.Holds f (B.part r f) (lastPut? f (B.history calls B.empty)) := by
  have finishes := lawful.finishes (B.draftAfter calls B.empty)
  unfold answer at h
  unfold Finishes at finishes
  split at finishes
  · rw [finishes] at h
    cases h
  · obtain ⟨s, hs, parts⟩ := finishes
    rw [hs] at h
    cases h
    rw [parts f]
    exact lawful.holds_draftAfter f calls

theorem commute {f g : ι} (hne : f ≠ g) (v w : Value) (d : δ) :
    B.draftAfter [.fill f v, .fill g w] d = B.draftAfter [.fill g w, .fill f v] d := by
  refine lawful.ext _ _ fun h => ?_
  simp only [draftAfter]
  by_cases hf : h = f
  · subst hf
    rw [lawful.get_call_fill_of_ne w _ hne, lawful.get_call_fill_self,
      lawful.get_call_fill_self, lawful.get_call_fill_of_ne w _ hne]
  · by_cases hg : h = g
    · subst hg
      rw [lawful.get_call_fill_of_ne v _ hf, lawful.get_call_fill_self,
        lawful.get_call_fill_self, lawful.get_call_fill_of_ne v _ hf]
    · rw [lawful.get_call_fill_of_ne w _ hg, lawful.get_call_fill_of_ne v _ hf,
        lawful.get_call_fill_of_ne v _ hf, lawful.get_call_fill_of_ne w _ hg]

/-- **A lawful builder keeps account of the calls.** -/
theorem accounts : B.Accounts where
  failed _ _ _ h := lawful.call_after_snd_of_error h
  finished := lawful.call_finish_after_snd
  append := history_append
  next calls := by
    rw [history_append, history, history, call_finish_after]
    rfl
  missing calls f h := by
    have finishes := lawful.finishes (B.draftAfter calls B.empty)
    rw [Finishes, lawful.find?_draftAfter, h] at finishes
    rw [answer, finishes]
  holds calls h := by
    have finishes := lawful.finishes (B.draftAfter calls B.empty)
    have all : (B.required.find? fun f => (lastPut? f (B.history calls B.empty)).isNone) = none := by
      rw [List.find?_eq_none]
      intro f hf
      rw [Option.isNone_eq_false_iff.2 (h f hf)]
      exact Bool.noConfusion
    rw [Finishes, lawful.find?_draftAfter, all] at finishes
    obtain ⟨r, hr, -⟩ := finishes
    have built : B.answer calls = .ok r := by rw [answer, hr]
    exact ⟨r, built, lawful.holds_of_answer built⟩
  commute f g v w d hne := by
    refine ⟨lawful.commute hne v w d, ?_⟩
    simp only [history, lawful.call_fill_fst]
    rfl

end Lawful

end Builder

end StorageMetadata
