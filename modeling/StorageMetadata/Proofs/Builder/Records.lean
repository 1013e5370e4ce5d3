import StorageMetadata.Bucket.Draft
import StorageMetadata.CrossOrigin.Draft
import StorageMetadata.Object.Draft
import StorageMetadata.Proofs.Builder.Copy
import StorageMetadata.Proofs.Resource.Field

/-!
# The builders of objects, buckets and rules

Three kinds of records are put together in drafts, with twenty-two fields, fifteen and four.  All
three builders are lawful, although they copy a record in three ways: an object's fields are taken
over as they are unless they hold nothing, a bucket's fields are all taken over, and the fields of a
rule are put in once more the way callers do it.
-/

namespace StorageMetadata

open StorageMetadata.Resource StorageMetadata.Value Filling

/-! ### Objects -/

namespace Object

theorem Draft.ext_of_get {d e : Draft} (h : ∀ f, d.get f = e.get f) : d = e := by
  have acl : d.acl = e.acl := ofList?_injective (h .acl)
  cases d
  cases e
  simp only [Draft.mk.injEq]
  exact ⟨h .bucket, h .name, h .id, h .selfLink, h .mediaLink, h .etag, h .generation,
    h .metageneration, h .size, h .componentCount, h .deleteTime, h .updateTime, h .owner, acl,
    h .metadata, h .cacheControl, h .contentType, h .contentEncoding, h .contentDisposition,
    h .contentLanguage, h .md5, h .crc32c⟩

/-- How objects are put together. -/
def builder : Builder Field Draft Object where
  empty := {}
  get := Draft.get
  fill := Draft.fill
  finish := Draft.finish
  refill := refill
  part o := o.toDraft.get
  stored := Draft.stored
  required := [.bucket, .name]
  label := Field.label

theorem lawful_builder : builder.LawfulCopy where
  get_empty f := by cases f <;> rfl
  ext _ _ h := Draft.ext_of_get h
  puts := Draft.puts_fill
  ne_null f hf v w hw := by
    have stored : (if v = .null then .error (.missingField f.label) else .ok v : Result Value) =
        .ok w := by
      rcases List.mem_cons.1 hf with rfl | hf
      · exact hw
      · rcases List.mem_singleton.1 hf with rfl
        exact hw
    split at stored
    · cases stored
    next some =>
      cases stored
      exact some
  finishes d := by
    have finish : Draft.finish.after d = (d.build, d) := rfl
    simp only [Builder.Finishes, builder, List.find?_cons, List.find?_nil, Draft.get, finish]
    unfold Draft.build
    cases hb : d.bucket.isNull with
    | true =>
      rw [dif_pos (Value.isNull_eq_true_iff.1 hb)]
      rfl
    | false =>
      rw [dif_neg (Value.isNull_eq_false_iff.1 hb)]
      cases hn : d.name.isNull with
      | true =>
        rw [dif_pos (Value.isNull_eq_true_iff.1 hn)]
        rfl
      | false =>
        rw [dif_neg (Value.isNull_eq_false_iff.1 hn)]
        exact ⟨_, rfl, fun _ => rfl⟩
  refills o := by
    obtain ⟨d, hd, filled, -⟩ := exists_after_forM
      (fun f => brings_unless (Draft.puts_take o.toDraft f)) Field.all {} fun f =>
        Or.inl (by cases f <;> rfl)
    exact ⟨d, hd, fun f => filled f (by cases f <;> decide)⟩
  part_ne_null o f hf := by
    rcases List.mem_cons.1 hf with rfl | hf
    · exact o.bucket_ne_null
    · rcases List.mem_singleton.1 hf with rfl
      exact o.name_ne_null
  part_injective o p h := by
    have drafts : o.toDraft = p.toDraft := Draft.ext_of_get (congrFun h)
    cases o
    cases p
    cases drafts
    rfl

end Object

/-! ### Buckets -/

namespace Bucket

theorem Draft.ext_of_get {d e : Draft} (h : ∀ f, d.get f = e.get f) : d = e := by
  have cors : d.cors = e.cors := ofList?_injective (h .cors)
  have acl : d.acl = e.acl := ofList?_injective (h .acl)
  have defaultAcl : d.defaultAcl = e.defaultAcl := ofList?_injective (h .defaultAcl)
  cases d
  cases e
  simp only [Draft.mk.injEq]
  exact ⟨h .name, h .id, h .selfLink, h .owner, h .etag, h .location, h .storageClass,
    h .versioningEnabled, h .indexPage, h .notFoundPage, h .createTime, h .metageneration, cors,
    acl, defaultAcl⟩

/-- How buckets are put together. -/
def builder : Builder Field Draft Bucket where
  empty := {}
  get := Draft.get
  fill := Draft.fill
  finish := Draft.finish
  refill := refill
  part b := b.toDraft.get
  stored := Draft.stored
  required := [.name]
  label := Field.label

theorem lawful_builder : builder.LawfulCopy where
  get_empty f := by cases f <;> rfl
  ext _ _ h := Draft.ext_of_get h
  puts := Draft.puts_fill
  ne_null f hf v w hw := by
    rcases List.mem_singleton.1 hf with rfl
    simp only [builder, Draft.stored] at hw
    split at hw
    · cases hw
    next some =>
      cases hw
      exact some
  finishes d := by
    have finish : Draft.finish.after d = (d.build, d) := rfl
    simp only [Builder.Finishes, builder, List.find?_cons, List.find?_nil, Draft.get, finish]
    unfold Draft.build
    cases hn : d.name.isNull with
    | true =>
      rw [dif_pos (Value.isNull_eq_true_iff.1 hn)]
      rfl
    | false =>
      rw [dif_neg (Value.isNull_eq_false_iff.1 hn)]
      exact ⟨_, rfl, fun _ => rfl⟩
  refills b := by
    obtain ⟨d, hd, filled, -⟩ := exists_after_forM
      (fun f => (Draft.puts_take b.toDraft f).brings) Field.all {} fun f =>
        Or.inl (by cases f <;> rfl)
    exact ⟨d, hd, fun f => filled f (by cases f <;> decide)⟩
  part_ne_null b f hf := by
    rcases List.mem_singleton.1 hf with rfl
    exact b.name_ne_null
  part_injective b c h := by
    have drafts : b.toDraft = c.toDraft := Draft.ext_of_get (congrFun h)
    cases b
    cases c
    cases drafts
    rfl

end Bucket

/-! ### Rules -/

namespace CorsRule

theorem ext_of_get {r q : CorsRule Value} (h : ∀ f, r.get f = q.get f) : r = q := by
  have methods : r.methods = q.methods := ofList?_injective (h .methods)
  have origins : r.origins = q.origins := ofList?_injective (h .origins)
  have headers : r.responseHeaders = q.responseHeaders := ofList?_injective (h .responseHeaders)
  cases r
  cases q
  simp only [mk.injEq]
  exact ⟨h .maxAge, methods, origins, headers⟩

/-- How rules are put together.  Every field may be left out. -/
def builder : Builder Field Draft (CorsRule Value) where
  empty := {}
  get := Draft.get
  fill := Draft.fill
  finish := Draft.finish
  refill := refill
  part := get
  stored := Draft.stored
  required := []
  label := Field.label

/-- A field of a rule is stored as it is. -/
theorem stored_get (r : CorsRule Value) (f : Field) :
    Draft.stored f (r.get f) = .ok (r.get f) := by
  have sequence : ∀ items? : Option (List Value),
      (sequence? (ofList? items?)).map ofList? = .ok (ofList? items?) := by
    intro items?
    cases items? <;> rfl
  cases f with
  | maxAge => rfl
  | _ => exact sequence _

theorem refill_eq (r : CorsRule Value) :
    r.refill = Field.all.forM fun f => Draft.fill f (r.get f) := by
  simp only [Field.all, List.forM, bind_pure_unit]
  rfl

theorem lawful_builder : builder.LawfulCopy where
  get_empty f := by cases f <;> rfl
  ext d e h := congrArg Draft.mk (ext_of_get h)
  puts := Draft.puts_fill
  ne_null f hf := by cases hf
  finishes d := ⟨d.build, rfl, fun _ => rfl⟩
  refills r := by
    have brings : ∀ f, Brings Draft.get r.get f (Draft.fill f (r.get f)) := by
      intro f
      have puts := Draft.puts_fill f (r.get f)
      rw [stored_get] at puts
      exact puts.brings
    obtain ⟨d, hd, filled, -⟩ := exists_after_forM brings Field.all {} fun f =>
      Or.inl (by cases f <;> rfl)
    refine ⟨d, ?_, fun f => filled f (by cases f <;> decide)⟩
    show r.refill.after {} = _
    rw [refill_eq, hd]
  part_ne_null r f hf := by cases hf
  part_injective r q h := ext_of_get (congrFun h)

end CorsRule

end StorageMetadata
