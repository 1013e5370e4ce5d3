import StorageMetadata.Proofs.Bucket.Layout
import StorageMetadata.Proofs.Builder.Records
import StorageMetadata.Proofs.Object.Layout
import StorageMetadata.Proofs.Resource.NullFree

/-!
# What callers can rely on

The builders of objects, buckets and rules keep account of the calls that are made on them, in any
order and with any of them failing.  A value of the kind that its field is for is held there as it
was put (`stored_of_kind`), a list with its items in order, but for what the three states of a field
make of it.  For an object this can be seen in its resource.  After calls
with the history `H`, the entry of a field with three states is

    valueAt? f.key es = (lastPut? f H).map collapse,

so it is missing if the field was never put, holds nothing if nothing was put into it last, and holds
the value that was put otherwise.  No other entry holds nothing.
-/

namespace StorageMetadata

open StorageMetadata.Resource

open StorageMetadata.Value

/-! ### What is stored -/

/-- A list that may be missing is stored as it is, with its items in order. -/
theorem Value.map_sequence?_of_optional {P : Value → Prop} {v : Value}
    (h : Optional (IsListOf P) v) : (sequence? v).map ofList? = .ok v := by
  rcases h with rfl | ⟨items, rfl, -⟩ <;> rfl

/-- **A value of the kind of its field is stored as it is**, or in its three-state form. -/
theorem Object.stored_of_kind {f : Object.Field} {v : Value} (h : f.Kind v) :
    Object.builder.stored f v = .ok (if f.isClearable then clearable v else v) := by
  cases f with
  | bucket | name =>
    obtain ⟨s, rfl⟩ := h
    rfl
  | acl => exact map_sequence?_of_optional h
  | metadata => rcases h with rfl | ⟨texts, rfl, -⟩ <;> rfl
  | _ => rfl

theorem Bucket.stored_of_kind {f : Bucket.Field} {v : Value} (h : f.Kind v) :
    Bucket.builder.stored f v = .ok v := by
  cases f with
  | name =>
    obtain ⟨s, rfl⟩ := h
    rfl
  | cors | acl | defaultAcl => exact map_sequence?_of_optional h
  | _ => rfl

theorem CorsRule.stored_of_kind {f : CorsRule.Field} {v : Value} (h : f.Kind v) :
    CorsRule.builder.stored f v = .ok v := by
  cases f with
  | maxAge => rfl
  | _ => exact map_sequence?_of_optional h

/-! ### What is written -/

namespace Object

theorem Field.codec_of_isClearable {f : Field} (h : f.isClearable) : f.codec = .clearable := by
  cases f <;> first | rfl | cases h

theorem Draft.stored_of_isClearable {f : Field} (h : f.isClearable) (v : Value) :
    stored f v = .ok (clearable v) := by
  cases f <;> first | rfl | cases h

theorem Field.neverNull_codec {f : Field} (h : ¬ f.isClearable) : f.codec.NeverNull := by
  cases f with
  | bucket | name => exact Codec.neverNull_required _
  | id | selfLink | mediaLink | etag | componentCount => exact Form.neverNull_asIs _
  | generation | metageneration | size => exact Form.neverNull_integer _
  | deleteTime | updateTime => exact Form.neverNull_instant _
  | owner => exact Form.neverNull_within _ _
  | acl => exact Form.neverNull_list _
  | metadata => exact Form.neverNull_optional fun _ some h => some (Except.ok.inj h)
  | _ => exact absurd rfl h

/-- What is written for a field with three states, given what was last put into it. -/
theorem valueAt?_of_holds {part : Field → Value} {es : List (String × Value)}
    (writes : layout.Writes part es) {f : Field} (hf : f.isClearable) {put : Option Value}
    (holds : builder.Holds f (part f) put) : valueAt? f.key es = put.map collapse := by
  have write : Codec.clearable.write (part f) = .ok (valueAt? f.key es) := by
    rw [← Field.codec_of_isClearable hf]
    exact writes.write_eq f
  cases put with
  | none =>
    rw [show part f = .null from holds] at write
    exact (Except.ok.inj write).symm
  | some v =>
    have stored : part f = clearable v :=
      Except.ok.inj (holds.symm.trans (Draft.stored_of_isClearable hf v))
    rw [stored, Codec.clearable_write] at write
    exact (Except.ok.inj write).symm

/-- Only a field with three states is written as an entry with nothing in it. -/
theorem isClearable_of_null {part : Field → Value} {es : List (String × Value)}
    (writes : layout.Writes part es) {e : String × Value} (he : e ∈ es) (null : e.2 = .null) :
    ∃ f : Field, f.isClearable ∧ e.1 = f.key := by
  obtain ⟨slot, hslot, rfl⟩ := writes
  obtain ⟨f, key, hf⟩ := layout.exists_of_mem_entries he
  refine ⟨f, ?_, key⟩
  by_contra other
  apply Field.neverNull_codec other (part f)
  rw [← null, ← hf]
  exact hslot f

end Object

namespace Builder

/-- **The three builders keep account of all calls**, what is put is stored as it is, and the resource
of an object tells a field that was never put from one that was cleared. -/
theorem accounts_for_calls :
    (Object.builder.Accounts ∧ Bucket.builder.Accounts ∧ CorsRule.builder.Accounts) ∧
      ((∀ (f : Object.Field) (v : Value), f.Kind v →
          Object.builder.stored f v = .ok (if f.isClearable then clearable v else v)) ∧
        (∀ (f : Bucket.Field) (v : Value), f.Kind v → Bucket.builder.stored f v = .ok v) ∧
        ∀ (f : CorsRule.Field) (v : Value), f.Kind v → CorsRule.builder.stored f v = .ok v) ∧
      ∀ calls o r, Object.builder.answer calls = .ok o → o.encode = .ok r →
        ∃ es, r = .map es ∧
          (∀ f : Object.Field, f.isClearable →
            valueAt? f.key es = (lastPut? f (Object.builder.history calls {})).map collapse) ∧
          ∀ e ∈ es, e.2 = .null → ∃ f : Object.Field, f.isClearable ∧ e.1 = f.key := by
  refine ⟨⟨Object.lawful_builder.accounts, Bucket.lawful_builder.accounts,
    CorsRule.lawful_builder.accounts⟩, ⟨fun _ _ => Object.stored_of_kind,
    fun _ _ => Bucket.stored_of_kind, fun _ _ => CorsRule.stored_of_kind⟩, ?_⟩
  intro calls o r built encoded
  obtain ⟨es, rfl, writes⟩ := Object.writes_of_encode encoded
  refine ⟨es, rfl, fun f hf => ?_, fun e he null => Object.isClearable_of_null writes he null⟩
  exact Object.valueAt?_of_holds writes hf (Object.lawful_builder.holds_of_answer built f)

/-- Calls of every kind: some that fail, and some on fields with three states. -/
def someCalls : List (Call Object.Field) := [
  .fill .name "q1.csv", .fill .bucket .null, .fill .contentType "text/csv", .finish,
  .fill .bucket "reports", .fill .acl (.int 3), .fill .md5 "XrY7u+Ae7tCTyyK7j1rNww==",
  .fill .contentType .null
]

theorem accounts_for_someCalls :
    Object.builder.stored .metadata (.map [("k", "2"), ("a", "1")]) =
        .ok (.map [("k", "2"), ("a", "1")]) ∧
      ∃ o, Object.builder.answer someCalls = .ok o ∧
        ∃ es, o.encode = .ok (.map es) ∧ valueAt? "contentType" es = some .null ∧
          valueAt? "md5Hash" es = some "XrY7u+Ae7tCTyyK7j1rNww==" ∧
          valueAt? "crc32c" es = none := by
  have texts : Object.Field.Kind .metadata (.map [("k", "2"), ("a", "1")]) :=
    Or.inr ⟨_, rfl, by simp [AreTexts, IsText]⟩
  refine ⟨accounts_for_calls.2.1.1 .metadata _ texts, ?_⟩
  obtain ⟨o, built⟩ : ∃ o, Object.builder.answer someCalls = .ok o := ⟨_, rfl⟩
  obtain ⟨r, encoded⟩ : ∃ r, o.encode = .ok r := by
    cases built
    exact ⟨_, rfl⟩
  obtain ⟨es, rfl, states, -⟩ := accounts_for_calls.2.2 someCalls o r built encoded
  exact ⟨o, built, es, encoded, states .contentType rfl, states .md5 rfl, states .crc32c rfl⟩

end Builder

end StorageMetadata
