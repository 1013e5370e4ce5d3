import StorageMetadata.Proofs.Object.Layout

/-!
# Which failure of an object is told

An object is read field by field in the order `readOrder`, and the first field that cannot be read is
the failure of the whole:

    failure? (decode (.map es)).result =
      readOrder.findSome? fun f => failure? (f.codec.read (valueAt? f.key es)).

So the order in which a resource has its entries does not matter for which failure is told.
-/

namespace StorageMetadata.Object

open StorageMetadata.Resource StorageMetadata.Value StorageMetadata.Result

/-- The fields in the order in which they are read. -/
def readOrder : List Field :=
  [.bucket, .name, .id, .selfLink, .mediaLink, .etag, .componentCount, .generation, .metageneration,
  .metadata, .deleteTime, .updateTime, .size, .owner, .acl, .cacheControl, .contentType,
  .contentEncoding, .contentDisposition, .contentLanguage, .md5, .crc32c]

/-- **An object fails with the first of its fields that cannot be read.** -/
theorem failure?_decode (es : List (String × Value)) :
    failure? (decode (.map es)).result =
      readOrder.findSome? fun f => failure? (f.codec.read (valueAt? f.key es)) := by
  simp only [decode, Traced.result_bind, Traced.result_liftM, Traced.result_remark,
    Traced.result_pure, readRequired_map, integerField_map, instantField_map,
    readClearable_map, Entity.decodeOwner_map, Grant.decodeAll_map, readOrder, findSome?_cons_or]
  refine failure?_bind rfl fun bucket hbucket => failure?_bind rfl fun name hname => ?_
  -- Four fields are taken as they are, and so are the texts of users before they are copied.
  refine failure?_bind (failure?_field _ es IsText) fun id _ =>
    failure?_bind (failure?_field _ es IsText) fun selfLink _ =>
    failure?_bind (failure?_field _ es IsText) fun mediaLink _ =>
    failure?_bind (failure?_field _ es IsText) fun etag _ =>
    failure?_bind (failure?_field _ es IsInteger) fun count _ =>
    failure?_bind rfl fun generation _ => failure?_bind rfl fun metageneration _ => ?_
  show failure? (mapValue ((valueAt? "metadata" es).getD .null) >>= _) = _
  refine failure?_bind rfl fun metadata _ => failure?_bind rfl fun deleteTime _ =>
    failure?_bind rfl fun updateTime _ => failure?_bind rfl fun size _ =>
    failure?_bind rfl fun owner _ => failure?_bind (Form.failure?_readItems _ _) fun acl _ =>
    failure?_bind rfl fun _ _ => failure?_bind rfl fun _ _ => failure?_bind rfl fun _ _ =>
    failure?_bind rfl fun _ _ => failure?_bind rfl fun _ _ => failure?_bind rfl fun _ _ =>
    failure?_bind rfl fun _ _ => ?_
  -- A bucket and a name have been read, so the object is built.
  rw [Draft.build, dif_neg ((required_read_eq_ok_iff _).1 hbucket).2,
    dif_neg ((required_read_eq_ok_iff _).1 hname).2]
  rfl

/-- Resources with the same at the key of each field are read as one. -/
theorem decode_congr {es fs : List (String × Value)}
    (h : ∀ f : Field, f.codec.read (valueAt? f.key es) = f.codec.read (valueAt? f.key fs)) :
    (decode (.map es)).result = (decode (.map fs)).result := by
  refine eq_of_failure? (fun o => ?_) ?_
  · rw [decode_map_eq_ok_iff, decode_map_eq_ok_iff, layout.reads_congr h]
  · rw [failure?_decode, failure?_decode, funext fun f => congrArg failure? (h f)]

end StorageMetadata.Object
