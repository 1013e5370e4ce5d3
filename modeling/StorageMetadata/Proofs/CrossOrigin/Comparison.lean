import StorageMetadata.Proofs.CrossOrigin.Rule
import StorageMetadata.Proofs.Resource.Comparison

/-!
# Comparing rules

Rules are compared part by part.  Whether an origin is the shared one is not written, so origins are
compared by their texts; everything else of a rule is compared as it is.
-/

namespace StorageMetadata

open StorageMetadata.Resource StorageMetadata.Value

/-- Are both values origins with the same text? -/
def Value.SameText (v w : Value) : Prop :=
  ∃ s shared shared', v = .origin ⟨.text s, shared⟩ ∧ w = .origin ⟨.text s, shared'⟩

theorem Value.IsLookedUp.isOrigin {v : Value} (h : v.IsLookedUp) : v.IsOrigin :=
  h.imp fun s hs => ⟨decide (s = anyOrigin), hs⟩

theorem Method.distinguishes_form : form.Distinguishes IsMethod Eq := by
  refine Form.distinguishes_of_lawful lawful_form ?_
  rintro _ s ⟨m, rfl⟩ hs
  cases hs
  exact ⟨_, rfl⟩

theorem Origin.distinguishes_form : form.Distinguishes IsOrigin SameText where
  ne_null := by
    rintro _ ⟨s, shared, rfl⟩
    exact Value.noConfusion
  exists_encode := by
    rintro _ ⟨s, shared, rfl⟩
    exact ⟨.text s, rfl⟩
  tells := by
    rintro _ _ v w ⟨s, shared, rfl⟩ ⟨t, shared', rfl⟩ hv hw
    cases hv
    cases hw
    refine Tells.ok_decide.congr ⟨?_, ?_⟩
    · rintro same
      cases same
      exact ⟨s, shared, shared', rfl, rfl⟩
    · rintro ⟨_, _, _, hs, ht⟩
      cases hs
      cases ht
      rfl
  equivalence := {
    refl := by
      rintro _ ⟨s, shared, rfl⟩
      exact ⟨s, shared, shared, rfl, rfl⟩
    symm := by
      rintro _ _ ⟨s, shared, shared', rfl, rfl⟩
      exact ⟨s, shared', shared, rfl, rfl⟩
    trans := by
      rintro _ _ _ ⟨s, shared, shared', rfl, rfl⟩ ⟨_, _, last, hs, rfl⟩
      cases hs
      exact ⟨s, shared, last, rfl, rfl⟩ }

namespace CorsRule

/-- A rule that can be read back has values of their kinds in its fields. -/
theorem kind_of_typed {r : CorsRule Value} (typed : layout.Typed r.get) (f : Field) :
    f.Kind (r.get f) := by
  have h := typed f
  cases f with
  | origins => exact h.imp fun _ items => items.imp fun _ origin => origin.isOrigin
  | _ => exact h

/-- When do two rules agree in a field? -/
def Field.Agrees : Field → Value → Value → Prop
  | .origins => Alike (Listwise SameText)
  | _ => Eq

theorem distinguishes_codec : ∀ f : Field, f.codec.Distinguishes f.Kind f.Agrees
  | .maxAge => (Form.distinguishes_optional Form.distinguishes_number).eq
  | .methods =>
    (Form.distinguishes_optional (Form.distinguishes_list_eq Method.distinguishes_form)).eq
  | .origins => Form.distinguishes_optional (Form.distinguishes_list Origin.distinguishes_form)
  | .responseHeaders =>
    (Form.distinguishes_optional (Form.distinguishes_list_eq Form.distinguishes_text)).eq

end CorsRule

/-- Are both values rules that agree in every field? -/
def Value.RulesAlike (v w : Value) : Prop :=
  ∃ r q : CorsRule Value, v = .rule r ∧ w = .rule q ∧
    ∀ f : CorsRule.Field, f.Agrees (r.get f) (q.get f)

namespace CorsRule

theorem rulesAlike_iff {r q : CorsRule Value} :
    RulesAlike (.rule r) (.rule q) ↔ ∀ f : Field, f.Agrees (r.get f) (q.get f) := by
  constructor
  · rintro ⟨_, _, hr, hq, same⟩
    cases hr
    cases hq
    exact same
  · exact fun same => ⟨r, q, rfl, rfl, same⟩

theorem exists_writes_of_kind {r : CorsRule Value} (h : ∀ f : Field, f.Kind (r.get f)) :
    ∃ es, layout.Writes r.get es :=
  Layout.exists_writes fun f => (distinguishes_codec f).exists_write _ (h f)

/-- Rules are told apart part by part. -/
theorem distinguishes_form : form.Distinguishes IsRule RulesAlike where
  ne_null := by
    rintro _ ⟨r, rfl, -⟩
    exact Value.noConfusion
  exists_encode := by
    rintro _ ⟨r, rfl, kinds⟩
    obtain ⟨es, writes⟩ := exists_writes_of_kind kinds
    exact ⟨.map es, encode_of_writes writes⟩
  tells := by
    rintro _ _ s t ⟨r, rfl, kinds⟩ ⟨q, rfl, kinds'⟩ hs ht
    obtain ⟨es, rfl, writes⟩ := writes_of_encode hs
    obtain ⟨fs, rfl, writes'⟩ := writes_of_encode ht
    exact (Layout.Writes.tells distinguishes_codec kinds kinds' writes writes').congr
      rulesAlike_iff.symm
  equivalence := {
    refl := by
      rintro _ ⟨r, rfl, kinds⟩
      exact rulesAlike_iff.2 fun f => (distinguishes_codec f).equivalence.refl _ (kinds f)
    symm := by
      rintro _ _ ⟨r, q, rfl, rfl, same⟩
      exact rulesAlike_iff.2 fun f => (distinguishes_codec f).equivalence.symm _ _ (same f)
    trans := by
      rintro _ _ _ ⟨r, q, rfl, rfl, same⟩ ⟨_, p, hq, rfl, same'⟩
      cases hq
      exact rulesAlike_iff.2 fun f =>
        (distinguishes_codec f).equivalence.trans _ _ _ (same f) (same' f) }

end CorsRule

end StorageMetadata
