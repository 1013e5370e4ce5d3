import StorageMetadata.Proofs.Bucket.Layout

/-!
# Which failure of a bucket is told

A bucket is read key by key in the order `readOrder`, a rule field by field in the order in which its
fields are listed, and the first that cannot be read is the failure of the whole:

    failure? (decode (.map es)).result =
      readOrder.findSome? fun k => failure? (k.codec.read (valueAt? k.text es)).
-/

namespace StorageMetadata

open StorageMetadata.Resource StorageMetadata.Value StorageMetadata.Result

namespace CorsRule

/-- **A rule fails with the first of its fields that cannot be read.** -/
theorem failure?_decode (es : List (String × Value)) :
    failure? (decode (.map es)).result =
      Field.all.findSome? fun f => failure? (f.codec.read (valueAt? f.key es)) := by
  -- The two steps of reading a list are taken together.
  have steps : (decode (.map es)).result = (Value.map es).field "maxAgeSeconds" >>= fun maxAge =>
      Method.form.readItems (valueAt? "method" es) >>= fun methods =>
      Origin.form.readItems (valueAt? "origin" es) >>= fun origins =>
      (Form.asIs IsText).readItems (valueAt? "responseHeader" es) >>= fun responseHeaders =>
      .ok { maxAge, methods, origins, responseHeaders } := by
    rw [Form.asIs_readItems]
    simp only [decode, Traced.result_bind, Traced.result_liftM, Traced.result_remark,
      Traced.result_pure, Form.readItems, mapItems_eq, bind_assoc]
    rfl
  simp only [steps, Field.all, findSome?_cons_or]
  exact failure?_bind (failure?_field _ es IsInteger) fun _ _ =>
    failure?_bind (Form.failure?_readItems _ _) fun _ _ =>
    failure?_bind (Form.failure?_readItems _ _) fun _ _ =>
    failure?_bind (Form.failure?_readItems _ _) fun _ _ => rfl

/-- Rules with the same at the key of each field are read as one. -/
theorem decode_congr {es fs : List (String × Value)}
    (h : ∀ f : Field, f.codec.read (valueAt? f.key es) = f.codec.read (valueAt? f.key fs)) :
    (decode (.map es)).result = (decode (.map fs)).result := by
  refine eq_of_failure? (fun r => ?_) ?_
  · rw [decode_map_eq_ok_iff, decode_map_eq_ok_iff, layout.reads_congr h]
  · rw [failure?_decode, failure?_decode, funext fun f => congrArg failure? (h f)]

end CorsRule

namespace Bucket

/-- The keys in the order in which they are read. -/
def readOrder : List Key :=
  [.name, .id, .selfLink, .etag, .location, .storageClass, .owner, .versioning, .website,
  .timeCreated, .metageneration, .cors, .acl, .defaultObjectAcl]

/-- Both pages of the website are read, one after the other. -/
theorem failure?_website (es : List (String × Value)) :
    (failure? (sectionField "website" "mainPageSuffix" (.map es))).or
      (failure? (sectionField "website" "notFoundPage" (.map es))) =
        failure? (websiteCodec.read (valueAt? "website" es)) := by
  have read : websiteCodec.read (valueAt? "website" es) =
      sectionField "website" "mainPageSuffix" (.map es) >>= fun index =>
      sectionField "website" "notFoundPage" (.map es) >>= fun missing =>
      .ok (.list [index, missing]) := by
    show _ = (if (valueAt? "website" es).getD .null = .null then _ else _) >>= fun index =>
      (if (valueAt? "website" es).getD .null = .null then _ else _) >>= fun missing => _
    simp only [websiteCodec]
    split
    next => rfl
    next => rfl
  rw [read]
  refine (failure?_bind rfl fun index _ => ?_).symm
  exact (congrArg failure? (bind_pure_eq_map _ _)).trans (failure?_map _ _)

/-- **A bucket fails with the first of its keys that cannot be read.** -/
theorem failure?_decode (es : List (String × Value)) :
    failure? (decode (.map es)).result =
      readOrder.findSome? fun k => failure? (k.codec.read (valueAt? k.text es)) := by
  have text : ∀ key, failure? ((Value.map es).field key) =
      failure? ((Form.asIs IsText).optional.read (valueAt? key es)) :=
    fun key => failure?_field key es IsText
  have website : failure? (Key.website.codec.read (valueAt? Key.website.text es)) =
      (failure? (sectionField "website" "mainPageSuffix" (.map es))).or
        (failure? (sectionField "website" "notFoundPage" (.map es))) := (failure?_website es).symm
  simp only [decode, Traced.result_bind, Traced.result_liftM, Traced.result_remark,
    Traced.result_pure, readRequired_map, integerField_map, instantField_map,
    Entity.decodeOwner_map, Grant.decodeAll_map, decodeRules_map, readOrder, findSome?_cons_or,
    website, Option.or_assoc]
  refine failure?_bind rfl fun name hname => failure?_bind (text _) fun _ _ =>
    failure?_bind (text _) fun _ _ => failure?_bind (text _) fun _ _ =>
    failure?_bind (text _) fun _ _ => failure?_bind (text _) fun _ _ =>
    failure?_bind rfl fun _ _ => ?_
  -- The flag and the pages are kept a level deeper.
  refine failure?_bind (congrArg failure? (sectionField_map _ _ _ IsFlag)) fun _ _ =>
    failure?_bind rfl fun _ _ => failure?_bind rfl fun _ _ => failure?_bind rfl fun _ _ =>
    failure?_bind rfl fun _ _ => failure?_bind (Form.failure?_readItems _ _) fun _ _ =>
    failure?_bind (Form.failure?_readItems _ _) fun _ _ =>
    failure?_bind (Form.failure?_readItems _ _) fun _ _ => ?_
  -- A name has been read, so the bucket is built.
  rw [Draft.build, dif_neg ((required_read_eq_ok_iff _).1 hname).2]
  rfl

/-- Resources with the same at each key are read as one. -/
theorem decode_congr {es fs : List (String × Value)}
    (h : ∀ k : Key, k.codec.read (valueAt? k.text es) = k.codec.read (valueAt? k.text fs)) :
    (decode (.map es)).result = (decode (.map fs)).result := by
  refine eq_of_failure? (fun b => ?_) ?_
  · rw [decode_map_eq_ok_iff, decode_map_eq_ok_iff, layout.reads_congr h]
  · rw [failure?_decode, failure?_decode, funext fun k => congrArg failure? (h k)]

end Bucket

end StorageMetadata
