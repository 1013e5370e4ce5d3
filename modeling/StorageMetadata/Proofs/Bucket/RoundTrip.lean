import StorageMetadata.Proofs.Bucket.Layout

/-!
# Buckets are read back

A bucket whose fields hold values of their kinds can be written as a resource, and the resource is
read as the same bucket, except that every origin in its rules is one that was looked up:

    ∃ r, b.encode = .ok r ∧ (decode r).result = .ok b.lookedUp.

An origin for `*` that was made without looking it up comes back as the shared one.  The two stand
for the same, and so does every field of the bucket that comes back.
-/

namespace StorageMetadata

open StorageMetadata.Resource StorageMetadata.Value

theorem Value.encode_ruleLookedUp (v : Value) : v.ruleLookedUp.encode = v.encode := by
  cases v with
  | rule r => exact CorsRule.encode_lookedUp r
  | _ => rfl

namespace Bucket

/-- The bucket with the origins of all its rules looked up. -/
def lookedUp (b : Bucket) : Bucket :=
  { b with cors := b.cors.map (List.map Value.ruleLookedUp) }

/-- Whether an origin is the shared one is not written. -/
theorem encode_lookedUp (b : Bucket) : b.lookedUp.encode = b.encode := by
  have rules : encodeRules b.lookedUp.cors = encodeRules b.cors := by
    unfold lookedUp
    cases b.cors with
    | none => rfl
    | some items =>
      simp only [encodeRules, Option.map_some, List.mapM_map, Function.comp_def,
        Value.encode_ruleLookedUp]
  unfold encode
  rw [rules]
  rfl

/-- A bucket with fields of their kinds can be written and read back, once the origins of its rules
are looked up. -/
theorem typed_lookedUp {b : Bucket} (h : ∀ f : Field, f.Kind (b.toDraft.get f)) :
    layout.Typed b.lookedUp.toDraft.part := by
  intro k
  cases k with
  | name => exact h .name
  | id => exact h .id
  | selfLink => exact h .selfLink
  | owner => exact h .owner
  | etag => exact h .etag
  | location => exact h .location
  | storageClass => exact h .storageClass
  | versioning => exact h .versioningEnabled
  | website => exact ⟨_, _, rfl, h .indexPage, h .notFoundPage⟩
  | timeCreated => exact h .createTime
  | metageneration => exact h .metageneration
  | acl => exact h .acl
  | defaultObjectAcl => exact h .defaultAcl
  | cors =>
    refine Optional.listOf_map (h .cors) ?_
    rintro _ ⟨r, rfl, kinds⟩
    exact ⟨r.lookedUp, rfl, CorsRule.typed_lookedUp kinds⟩

/-- Every field stands for the same once the origins are looked up. -/
theorem same_lookedUp {b : Bucket} (h : ∀ f : Field, f.Kind (b.toDraft.get f)) (f : Field) :
    (b.lookedUp.toDraft.get f).same (b.toDraft.get f) = .ok true := by
  have text : ∀ {v}, Optional IsText v → v.same v = .ok true :=
    fun hv => hv.same_self fun _ => IsText.same_self
  have grants : ∀ {v}, Optional (IsListOf IsGrant) v → v.same v = .ok true :=
    fun hv => hv.same_self fun _ hl => hl.same_self fun _ => IsGrant.same_self
  cases f with
  | name => exact (h .name).same_self
  | id => exact text (h .id)
  | selfLink => exact text (h .selfLink)
  | owner => exact Optional.same_self (h .owner) fun _ => IsEntity.same_self
  | etag => exact text (h .etag)
  | location => exact text (h .location)
  | storageClass => exact text (h .storageClass)
  | versioningEnabled => exact Optional.same_self (h .versioningEnabled) fun _ => IsFlag.same_self
  | indexPage => exact text (h .indexPage)
  | notFoundPage => exact text (h .notFoundPage)
  | createTime => exact Optional.same_self (h .createTime) fun _ hv => hv.isInteger.same_self
  | metageneration =>
    exact Optional.same_self (h .metageneration) fun _ hv => hv.isInteger.same_self
  | acl => exact grants (h .acl)
  | defaultAcl => exact grants (h .defaultAcl)
  | cors =>
    refine same_ofList?_map (h .cors) ?_
    rintro _ ⟨r, rfl, kinds⟩
    exact CorsRule.same_lookedUp kinds

/-- **A bucket is read back from the resource that it is written as**, with the origins of its rules
looked up. -/
theorem decode_encode_lookedUp {b : Bucket} (h : ∀ f : Field, f.Kind (b.toDraft.get f)) :
    ∃ r, b.encode = .ok r ∧ (decode r).result = .ok b.lookedUp ∧
      ∀ f : Field, (b.lookedUp.toDraft.get f).same (b.toDraft.get f) = .ok true := by
  obtain ⟨es, writes, reads⟩ := Layout.exists_writes_reads lawful_layout (typed_lookedUp h)
  refine ⟨.map es, ?_, decode_map_eq_ok_iff.2 reads, same_lookedUp h⟩
  rw [← encode_lookedUp]
  exact encode_of_writes writes

/-- A bucket with a rule for an origin that was not looked up, and with one page. -/
def archive : Bucket where
  name := "archive"
  owner := .entity (.group "ops@example.com")
  storageClass := "NEARLINE"
  versioningEnabled := .bool false
  notFoundPage := "404.html"
  createTime := .int 253402300799999
  metageneration := .int 4
  cors := some [.rule ⟨.int 3600, some [.method .get], some [.origin ⟨"*", false⟩], some []⟩]
  acl := some []
  name_ne_null := Value.noConfusion

theorem kind_archive (f : Field) : f.Kind (archive.toDraft.get f) := by
  cases f with
  | name => exact ⟨_, rfl⟩
  | owner => exact Or.inr ⟨.group "ops@example.com", rfl, trivial⟩
  | storageClass => exact Or.inr ⟨_, rfl⟩
  | versioningEnabled => exact Or.inr ⟨_, rfl⟩
  | notFoundPage => exact Or.inr ⟨_, rfl⟩
  | createTime => exact Or.inr ⟨_, rfl, by decide⟩
  | metageneration => exact Or.inr ⟨_, rfl, by decide⟩
  | cors =>
    refine Or.inr ⟨_, rfl, List.forall_mem_singleton.2 ⟨_, rfl, ?_⟩⟩
    intro part
    cases part with
    | maxAge => exact Or.inr ⟨_, rfl⟩
    | methods => exact Or.inr ⟨_, rfl, List.forall_mem_singleton.2 ⟨_, rfl⟩⟩
    | origins => exact Or.inr ⟨_, rfl, List.forall_mem_singleton.2 ⟨_, _, rfl⟩⟩
    | responseHeaders => exact Or.inr ⟨[], rfl, by simp⟩
  | acl => exact Or.inr ⟨[], rfl, by simp⟩
  | _ => exact Or.inl rfl

/-- The kinds leave room for buckets that use every kind of section. -/
theorem decode_encode_archive :
    (∀ f : Field, f.Kind (archive.toDraft.get f)) ∧
      ∃ r, archive.encode = .ok r ∧ (decode r).result = .ok archive.lookedUp ∧
        ∀ f : Field, (archive.lookedUp.toDraft.get f).same (archive.toDraft.get f) = .ok true :=
  ⟨kind_archive, decode_encode_lookedUp kind_archive⟩

end Bucket

end StorageMetadata
