import StorageMetadata.Proofs.Access.Comparison
import StorageMetadata.Proofs.Object.Layout
import StorageMetadata.Proofs.Resource.Equality

/-!
# Comparing objects

Two objects are equal if their resources are.  Since no two values of a field are written alike
unless they stand for the same, that means that the objects agree field by field: most fields hold
the same, the owners and the entities of the grants are spelled alike, and the user's texts are the
same by key, in whatever order they were put.
-/

namespace StorageMetadata

open StorageMetadata.Resource

namespace Value

/-- Are both values maps with the same value at every key? -/
def SameEntries (v w : Value) : Prop :=
  ∃ es fs, v = .map es ∧ w = .map fs ∧ ∀ key, valueAt? key es = valueAt? key fs

theorem sameEntries_iff {es fs : List (String × Value)} :
    SameEntries (.map es) (.map fs) ↔ ∀ key, valueAt? key es = valueAt? key fs := by
  constructor
  · rintro ⟨_, _, hes, hfs, same⟩
    cases hes
    cases hfs
    exact same
  · exact fun same => ⟨es, fs, rfl, rfl, same⟩

end Value

namespace Object

open StorageMetadata.Value

/-- The user's texts are told apart by key. -/
theorem distinguishes_metadataForm :
    metadataForm.Distinguishes (IsMapOf IsDictionary) SameEntries where
  ne_null := by
    rintro _ ⟨es, rfl, -⟩
    exact Value.noConfusion
  exists_encode v _ := ⟨v, rfl⟩
  tells := by
    rintro _ _ s t ⟨es, rfl, hes⟩ ⟨fs, rfl, hfs⟩ hs ht
    cases hs
    cases ht
    exact (tells_dictionary hes hfs).congr sameEntries_iff.symm
  equivalence := {
    refl := by
      rintro _ ⟨es, rfl, -⟩
      exact sameEntries_iff.2 fun _ => rfl
    symm := by
      rintro _ _ ⟨es, fs, rfl, rfl, same⟩
      exact sameEntries_iff.2 fun key => (same key).symm
    trans := by
      rintro _ _ _ ⟨es, fs, rfl, rfl, same⟩ ⟨_, gs, hfs, rfl, same'⟩
      cases hfs
      exact sameEntries_iff.2 fun key => (same key).trans (same' key) }

/-- The values that a field may hold to be compared.  They are those of its kind, but any entity
with texts for its parts will do, and each of the user's texts has a key of its own. -/
def Field.Declared : Field → Value → Prop
  | .owner => Optional IsEntityOfTexts
  | .acl => Optional (IsListOf IsGrantOfTexts)
  | .metadata => Optional (IsMapOf IsDictionary)
  | f => f.Kind

/-- The fields of an object that can be read back hold values to be compared, if each of the user's
texts has a key of its own. -/
theorem declared_of_typed {o : Object} (typed : layout.Typed o.toDraft.get)
    (dictionary : ∀ texts, o.metadata = .map texts → (texts.map Prod.fst).Nodup) (f : Field) :
    f.Declared (o.toDraft.get f) := by
  have h := typed f
  cases f with
  | owner => exact h.imp fun _ entity => entity.ofTexts
  | acl => exact h.imp fun _ items => items.imp fun _ grant => grant.ofTexts
  | metadata =>
    rcases h with h | ⟨es, hes, texts⟩
    · exact Or.inl h
    · exact Or.inr ⟨es, hes, texts, dictionary es hes⟩
  | _ => exact h

/-- When do two objects agree in a field? -/
def Field.Agrees : Field → Value → Value → Prop
  | .owner => Alike SpelledAlike
  | .acl => Alike (Listwise GrantedAlike)
  | .metadata => Alike SameEntries
  | _ => Eq

theorem distinguishes_codec : ∀ f : Field, f.codec.Distinguishes f.Declared f.Agrees
  | .bucket | .name => Codec.distinguishes_required _
  | .id | .selfLink | .mediaLink | .etag => (Form.distinguishes_optional Form.distinguishes_text).eq
  | .generation | .metageneration | .size =>
    (Form.distinguishes_optional (Form.distinguishes_integer _)).eq
  | .componentCount => (Form.distinguishes_optional Form.distinguishes_number).eq
  | .deleteTime | .updateTime => (Form.distinguishes_optional (Form.distinguishes_instant _)).eq
  | .owner => Form.distinguishes_within Entity.distinguishes_form _
  | .acl => Form.distinguishes_optional (Form.distinguishes_list Grant.distinguishes_form)
  | .metadata => Form.distinguishes_optional distinguishes_metadataForm
  | .cacheControl | .contentType | .contentEncoding => Codec.distinguishes_clearable
  | .contentDisposition | .contentLanguage => Codec.distinguishes_clearable
  | .md5 | .crc32c => Codec.distinguishes_clearable

/-- Equality of objects means that they agree in every field. -/
theorem isEquality_same :
    IsEquality same fingerprint? (fun o => ∀ f : Field, f.Declared (o.toDraft.get f))
      fun a b => ∀ f : Field, f.Agrees (a.toDraft.get f) (b.toDraft.get f) := by
  refine isEquality_of_tells ?_ ?_ ?_ ?_ ?_
  · exact fun a b => Layout.tells_encode (fun o : Object => o.toDraft.get) distinguishes_codec
      encode_of_writes
  · exact fun a ha f => (distinguishes_codec f).equivalence.refl _ (ha f)
  · exact fun a b same f => (distinguishes_codec f).equivalence.symm _ _ (same f)
  · exact fun a b c same same' f =>
      (distinguishes_codec f).equivalence.trans _ _ _ (same f) (same' f)
  · intro a b ha same
    have bucket : a.bucket = b.bucket := same .bucket
    have name : a.name = b.name := same .name
    obtain ⟨s, hs⟩ : IsText a.bucket := ha .bucket
    obtain ⟨t, ht⟩ : IsText a.name := ha .name
    refine ⟨.parts [.ofText s, .ofText t], ?_, ?_⟩
    · simp only [fingerprint?, hs, ht, Value.fingerprint?]
      rfl
    · simp only [fingerprint?, ← bucket, ← name, hs, ht, Value.fingerprint?]
      rfl

end Object

end StorageMetadata
