import StorageMetadata.Proofs.Builder.Calls

/-!
# Copies of a record

A record is copied by filling in an empty draft with its fields and finishing that.  `Builder.change`
puts a value into one field in between.  A copy is the record itself, and after a change

    B.stored f v = .ok w → B.change r f v = .ok s → B.part s f = w,

with every other field as it was.

However a draft is filled in, each step may pass over a field that holds nothing, since the draft was
empty at first.
-/

namespace StorageMetadata

namespace Filling

variable {δ ι : Type} {get : δ → ι → Value} {source : ι → Value}

/-- Does a step bring one field of a draft to what the source holds there, and leave the others
alone?  The draft may hold nothing else there. -/
def Brings (get : δ → ι → Value) (source : ι → Value) (i : ι) (x : Filling δ Unit) : Prop :=
  ∀ d, get d i = .null ∨ get d i = source i →
    ∃ d', x.after d = (.ok (), d') ∧ get d' i = source i ∧ ∀ j, j ≠ i → get d' j = get d j

theorem Puts.brings {i : ι} {x : Filling δ Unit} (h : Puts get i (.ok (source i)) x) :
    Brings get source i x := fun d _ => h d

/-- A field that holds nothing can be passed over. -/
theorem brings_unless {i : ι} {x : Filling δ Unit} (h : Puts get i (.ok (source i)) x) :
    Brings get source i (do if source i ≠ .null then x) := by
  intro d hd
  by_cases none : source i = .null
  · refine ⟨d, ?_, ?_, fun _ _ => rfl⟩
    · simp only [none, ne_eq, not_true_eq_false, if_false]
      rfl
    · rw [none] at hd ⊢
      exact hd.elim id id
  · simp only [ne_eq, none, not_false_eq_true, if_true]
    exact h d

/-- If there is a step for each field, the draft comes to hold all that the source holds. -/
theorem exists_after_forM {step : ι → Filling δ Unit} (h : ∀ i, Brings get source i (step i)) :
    ∀ (is : List ι) (d : δ), (∀ i, get d i = .null ∨ get d i = source i) →
      ∃ d', (is.forM step).after d = (.ok (), d') ∧ (∀ i ∈ is, get d' i = source i) ∧
        ∀ i, get d' i = get d i ∨ get d' i = source i := by
  intro is
  induction is with
  | nil => intro d _; exact ⟨d, rfl, by simp, fun _ => Or.inl rfl⟩
  | cons i rest ih =>
    intro d hd
    obtain ⟨next, hnext, here, there⟩ := h i d (hd i)
    have still : ∀ j, get next j = get d j ∨ get next j = source j := by
      intro j
      by_cases hj : j = i
      · exact Or.inr (hj ▸ here)
      · exact Or.inl (there j hj)
    obtain ⟨last, hlast, filled, kept⟩ := ih next fun j =>
      (still j).elim (fun same => same ▸ hd j) Or.inr
    refine ⟨last, ?_, List.forall_mem_cons.2 ⟨?_, filled⟩, fun j => ?_⟩
    · show (step i >>= fun _ => rest.forM step).after d = _
      rw [after_bind_of_ok hnext, hlast]
    · rcases kept i with same | same
      · exact same.trans here
      · exact same
    · rcases kept j with same | same
      · exact (still j).imp same.trans same.trans
      · exact Or.inr same

end Filling

namespace Builder

open Filling

variable {ι δ ρ : Type} (B : Builder ι δ ρ)

/-- The record that is put together from the fields of another one. -/
def rebuild (r : ρ) : Result ρ :=
  Prod.fst (after (do
    B.refill r
    B.finish) B.empty)

/-- The record that is put together from the fields of another one, but for a value that is put into
one of them. -/
def change (r : ρ) (f : ι) (v : Value) : Result ρ :=
  Prod.fst (after (do
    B.refill r
    B.fill f v
    B.finish) B.empty)

/-- Does a draft come to hold the fields of a record, and are these all that there is to it? -/
structure LawfulCopy : Prop extends B.Lawful where
  refills : ∀ r, ∃ d, (B.refill r).after B.empty = (.ok (), d) ∧ ∀ f, B.get d f = B.part r f
  part_ne_null : ∀ r, ∀ f ∈ B.required, B.part r f ≠ .null
  part_injective : Function.Injective B.part

/-- How records are copied, and copied with one change. -/
structure Copies : Prop where
  /-- A copy is the record itself, whatever its fields hold. -/
  same : ∀ r, B.rebuild r = .ok r
  /-- What can be put into a field is there after a change as it is in a draft, and every other field
  is as it was. -/
  changed : ∀ r f v d d', (B.fill f v).after d = (.ok (), d') →
    ∃ s, B.change r f v = .ok s ∧ B.part s f = B.get d' f ∧ ∀ g, g ≠ f → B.part s g = B.part r g
  /-- What cannot be put into a field cannot be changed to. -/
  refused : ∀ r f v d d' e, (B.fill f v).after d = (.error e, d') → B.change r f v = .error e

variable {B}

namespace LawfulCopy

variable (lawful : B.LawfulCopy)
include lawful

/-- Finishing succeeds if nothing is missing that has to be there. -/
theorem exists_finish_after {d : δ} (h : ∀ f ∈ B.required, B.get d f ≠ .null) :
    ∃ r, B.finish.after d = (.ok r, d) ∧ ∀ f, B.part r f = B.get d f := by
  have finishes := lawful.finishes d
  have all : (B.required.find? fun f => (B.get d f).isNull) = none := by
    rw [List.find?_eq_none]
    intro f hf
    rw [Value.isNull_eq_true_iff]
    exact h f hf
  rw [Finishes, all] at finishes
  exact finishes

/-- **A copy is the record itself, and a change is a change of one field.** -/
theorem copies : B.Copies where
  same r := by
    obtain ⟨d, hd, fields⟩ := lawful.refills r
    obtain ⟨s, hs, parts⟩ := lawful.exists_finish_after fun f hf => by
      rw [fields f]
      exact lawful.part_ne_null r f hf
    obtain rfl : s = r := lawful.part_injective (funext fun f => (parts f).trans (fields f))
    rw [rebuild, after_bind_of_ok hd, hs]
  changed r f v held next hnext := by
    obtain ⟨stored, -⟩ := (lawful.puts f v).of_after_ok hnext
    obtain ⟨d, hd, fields⟩ := lawful.refills r
    have puts := lawful.puts f v d
    rw [stored] at puts
    obtain ⟨d', hd', here, there⟩ := puts
    obtain ⟨s, hs, parts⟩ := lawful.exists_finish_after (d := d') fun g hg => by
      by_cases hgf : g = f
      · subst hgf
        rw [here]
        exact lawful.ne_null g hg v _ stored
      · rw [there g hgf, fields g]
        exact lawful.part_ne_null r g hg
    refine ⟨s, ?_, (parts f).trans here, fun g hg => ?_⟩
    · rw [change, after_bind_of_ok hd, after_bind_of_ok hd', hs]
    · rw [parts g, there g hg, fields g]
  refused r f v held next e hnext := by
    have stored := (lawful.puts f v).of_after_error hnext
    obtain ⟨d, hd, -⟩ := lawful.refills r
    have puts := lawful.puts f v d
    rw [stored] at puts
    rw [change, after_bind_of_ok hd, after_bind_of_error puts]

end LawfulCopy

end Builder

end StorageMetadata
