import StorageMetadata.Proofs.Access.Comparison
import StorageMetadata.Proofs.Bucket.Layout
import StorageMetadata.Proofs.CrossOrigin.Comparison
import StorageMetadata.Proofs.Resource.Equality

/-!
# Comparing buckets

Two buckets are equal if their resources are, and that means that they agree field by field.  Most
fields hold the same; the owners and the entities of the grants are spelled alike, and the rules
agree part by part.  The two pages of the website are told apart although they share a section.
-/

namespace StorageMetadata.Bucket

open StorageMetadata.Resource StorageMetadata.Value

/-- The values that a field may hold to be compared.  They are those of its kind, but any entity
with texts for its parts will do. -/
def Field.Declared : Field → Value → Prop
  | .owner => Optional IsEntityOfTexts
  | .acl | .defaultAcl => Optional (IsListOf IsGrantOfTexts)
  | f => f.Kind

/-- When do two buckets agree in a field? -/
def Field.Agrees : Field → Value → Value → Prop
  | .owner => Alike SpelledAlike
  | .cors => Alike (Listwise RulesAlike)
  | .acl | .defaultAcl => Alike (Listwise GrantedAlike)
  | _ => Eq

namespace Key

def Declared : Key → Value → Prop
  | .owner => Optional IsEntityOfTexts
  | .versioning => Optional IsFlag
  | .website => websiteCodec.Typed
  | .timeCreated => Optional IsInstant
  | .metageneration => Optional IsFitting
  | .cors => Optional (IsListOf IsRule)
  | .acl | .defaultObjectAcl => Optional (IsListOf IsGrantOfTexts)
  | .name => IsText
  | _ => Optional IsText

def Agrees : Key → Value → Value → Prop
  | .owner => Alike SpelledAlike
  | .cors => Alike (Listwise RulesAlike)
  | .acl | .defaultObjectAcl => Alike (Listwise GrantedAlike)
  | _ => Eq

end Key

theorem isDictionary_pages {index missing : Value} {es : List (String × Value)}
    (hi : Optional IsText index) (hm : Optional IsText missing) (nodup : (es.map Prod.fst).Nodup)
    (found : ∀ key, valueAt? key es = pageAt? index missing key) : IsDictionary es := by
  refine ⟨fun e he => ?_, nodup⟩
  have page := valueAt?_of_mem nodup he
  rw [found, pageAt?, Option.or_eq_some_iff] at page
  have text : ∀ {v}, Optional IsText v → present v = some e.2 → IsText e.2 := by
    intro v hv hp
    unfold present at hp
    split at hp
    · cases hp
    next some =>
      cases hp
      exact hv.resolve_left some
  rcases page with page | ⟨-, page⟩
  · split at page
    · exact text hi page
    · cases page
  · split at page
    · exact text hm page
    · cases page

theorem pages_eq_iff {index missing index' missing' : Value} :
    (∀ key, pageAt? index missing key = pageAt? index' missing' key) ↔
      Value.list [index, missing] = .list [index', missing'] := by
  constructor
  · intro all
    have hi := all "mainPageSuffix"
    have hm := all "notFoundPage"
    rw [pageAt?_index, pageAt?_index] at hi
    rw [pageAt?_missing, pageAt?_missing] at hm
    rw [present_injective hi, present_injective hm]
  · intro same
    cases same
    exact fun _ => rfl

/-- Both pages are told apart. -/
theorem distinguishes_websiteCodec : websiteCodec.Distinguishes websiteCodec.Typed Eq where
  exists_write := by
    rintro _ ⟨index, missing, rfl, -, -⟩
    exact ⟨_, rfl⟩
  tells := by
    rintro _ _ s t ⟨index, missing, rfl, hi, hm⟩ ⟨index', missing', rfl, hi', hm'⟩ hs ht
    cases hs
    cases ht
    rcases websiteSection_cases index missing with
      ⟨hs, rfl, rfl⟩ | ⟨es, hs, nodup, page, found⟩ <;>
    rcases websiteSection_cases index' missing' with
      ⟨ht, rfl, rfl⟩ | ⟨fs, ht, nodup', page', found'⟩
    · rw [hs]
      exact rfl
    · rw [hs, ht]
      intro same
      cases same
      exact page'.elim (absurd rfl) (absurd rfl)
    · rw [hs, ht]
      intro same
      cases same
      exact page.elim (absurd rfl) (absurd rfl)
    · rw [hs, ht]
      refine (tells_dictionary (isDictionary_pages hi hm nodup found)
        (isDictionary_pages hi' hm' nodup' found')).congr ?_
      simp only [found, found', pages_eq_iff]
  equivalence := equivalenceOn_eq _

theorem distinguishes_codec : ∀ k : Key, k.codec.Distinguishes k.Declared k.Agrees
  | .name => Codec.distinguishes_required _
  | .id | .selfLink | .etag => (Form.distinguishes_optional Form.distinguishes_text).eq
  | .location | .storageClass => (Form.distinguishes_optional Form.distinguishes_text).eq
  | .owner => Form.distinguishes_within Entity.distinguishes_form _
  | .versioning => (Form.distinguishes_within Form.distinguishes_flag _).eq
  | .website => distinguishes_websiteCodec
  | .timeCreated => (Form.distinguishes_optional (Form.distinguishes_instant _)).eq
  | .metageneration => (Form.distinguishes_optional (Form.distinguishes_integer _)).eq
  | .cors => Form.distinguishes_optional (Form.distinguishes_list CorsRule.distinguishes_form)
  | .acl | .defaultObjectAcl =>
    Form.distinguishes_optional (Form.distinguishes_list Grant.distinguishes_form)

/-! ### Fields and keys -/

/-- The fields of a bucket that can be read back hold values to be compared. -/
theorem declared_of_typed {b : Bucket} (typed : layout.Typed b.toDraft.part) (f : Field) :
    f.Declared (b.toDraft.get f) := by
  have grants : ∀ {v}, Optional (IsListOf IsGrant) v → Optional (IsListOf IsGrantOfTexts) v :=
    fun h => h.imp fun _ items => items.imp fun _ grant => grant.ofTexts
  obtain ⟨index, missing, pages, hindex, hmissing⟩ := typed .website
  cases pages
  cases f with
  | name => exact typed .name
  | id => exact typed .id
  | selfLink => exact typed .selfLink
  | owner => exact (typed .owner).imp fun _ entity => entity.ofTexts
  | etag => exact typed .etag
  | location => exact typed .location
  | storageClass => exact typed .storageClass
  | versioningEnabled => exact typed .versioning
  | indexPage => exact hindex
  | notFoundPage => exact hmissing
  | createTime => exact typed .timeCreated
  | metageneration => exact typed .metageneration
  | cors =>
    refine (typed .cors).imp fun _ items => items.imp fun _ rule => ?_
    obtain ⟨r, hr, parts⟩ := rule
    exact ⟨r, hr, CorsRule.kind_of_typed parts⟩
  | acl => exact grants (typed .acl)
  | defaultAcl => exact grants (typed .defaultObjectAcl)

theorem declared_part {b : Bucket} (h : ∀ f : Field, f.Declared (b.toDraft.get f)) :
    ∀ k : Key, k.Declared (b.toDraft.part k)
  | .name => h .name
  | .id => h .id
  | .selfLink => h .selfLink
  | .owner => h .owner
  | .etag => h .etag
  | .location => h .location
  | .storageClass => h .storageClass
  | .versioning => h .versioningEnabled
  | .website => ⟨_, _, rfl, h .indexPage, h .notFoundPage⟩
  | .timeCreated => h .createTime
  | .metageneration => h .metageneration
  | .cors => h .cors
  | .acl => h .acl
  | .defaultObjectAcl => h .defaultAcl

theorem agrees_part_iff {a b : Bucket} :
    (∀ k : Key, k.Agrees (a.toDraft.part k) (b.toDraft.part k)) ↔
      ∀ f : Field, f.Agrees (a.toDraft.get f) (b.toDraft.get f) := by
  constructor
  · intro h
    have pages : Value.list [a.indexPage, a.notFoundPage] = .list [b.indexPage, b.notFoundPage] :=
      h .website
    obtain ⟨index, missing⟩ : a.indexPage = b.indexPage ∧ a.notFoundPage = b.notFoundPage := by
      simpa using pages
    intro f
    cases f with
    | name => exact h .name
    | id => exact h .id
    | selfLink => exact h .selfLink
    | owner => exact h .owner
    | etag => exact h .etag
    | location => exact h .location
    | storageClass => exact h .storageClass
    | versioningEnabled => exact h .versioning
    | indexPage => exact index
    | notFoundPage => exact missing
    | createTime => exact h .timeCreated
    | metageneration => exact h .metageneration
    | cors => exact h .cors
    | acl => exact h .acl
    | defaultAcl => exact h .defaultObjectAcl
  · intro h k
    cases k with
    | name => exact h .name
    | id => exact h .id
    | selfLink => exact h .selfLink
    | owner => exact h .owner
    | etag => exact h .etag
    | location => exact h .location
    | storageClass => exact h .storageClass
    | versioning => exact h .versioningEnabled
    | website =>
      have index : a.indexPage = b.indexPage := h .indexPage
      have missing : a.notFoundPage = b.notFoundPage := h .notFoundPage
      show Value.list [a.indexPage, a.notFoundPage] = .list [b.indexPage, b.notFoundPage]
      rw [index, missing]
    | timeCreated => exact h .createTime
    | metageneration => exact h .metageneration
    | cors => exact h .cors
    | acl => exact h .acl
    | defaultObjectAcl => exact h .defaultAcl

/-- Equality of buckets means that they agree in every field. -/
theorem isEquality_same :
    IsEquality same fingerprint? (fun b => ∀ f : Field, f.Declared (b.toDraft.get f))
      fun a b => ∀ f : Field, f.Agrees (a.toDraft.get f) (b.toDraft.get f) := by
  simp only [← agrees_part_iff]
  refine isEquality_of_tells ?_ ?_ ?_ ?_ ?_
  · exact fun a b ha hb => Layout.tells_encode (fun b : Bucket => b.toDraft.part)
      distinguishes_codec encode_of_writes (declared_part ha) (declared_part hb)
  · exact fun a ha k => (distinguishes_codec k).equivalence.refl _ (declared_part ha k)
  · exact fun a b same k => (distinguishes_codec k).equivalence.symm _ _ (same k)
  · exact fun a b c same same' k =>
      (distinguishes_codec k).equivalence.trans _ _ _ (same k) (same' k)
  · intro a b ha same
    have name : a.name = b.name := same .name
    obtain ⟨s, hs⟩ : IsText a.name := ha .name
    refine ⟨.ofText s, ?_, ?_⟩
    · simp only [fingerprint?, hs, Value.fingerprint?]
    · simp only [fingerprint?, ← name, hs, Value.fingerprint?]

end StorageMetadata.Bucket
