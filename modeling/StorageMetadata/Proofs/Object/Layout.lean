import StorageMetadata.Object.Resource
import StorageMetadata.Proofs.Access.Grant

/-!
# How objects are laid out

The twenty-two fields of an object, each with its key and its codec.  An object is read and written
field by field, in this layout:

    (decode (.map es)).result = .ok o ↔ layout.Reads es o.toDraft.get,
    layout.Writes o.toDraft.get es → o.encode = .ok (.map es).

The order in which fields are read only matters for which failure is told.
-/

namespace StorageMetadata.Object

open StorageMetadata.Resource StorageMetadata.Value

/-- The texts that users keep with an object, written as they are. -/
def metadataForm : Form where
  decode := toMap
  encode := .ok
  Typed := IsMapOf AreTexts
  Admits := IsMapOf AreTexts
  normal := id

theorem lawful_metadataForm : metadataForm.Lawful where
  ne_null v := by
    rintro ⟨es, rfl, -⟩
    exact Value.noConfusion
  decode_encode v := by
    rintro ⟨es, rfl, -⟩
    exact ⟨.map es, rfl, Value.noConfusion, rfl⟩
  encode_decode w v hw hr _ := by
    obtain ⟨es, rfl, texts⟩ := hw
    cases hr
    exact ⟨⟨es, rfl, texts⟩, rfl⟩

namespace Field

/-- The key of a field in a resource. -/
def key : Field → String
  | .bucket => "bucket"
  | .name => "name"
  | .id => "id"
  | .selfLink => "selfLink"
  | .mediaLink => "mediaLink"
  | .etag => "etag"
  | .generation => "generation"
  | .metageneration => "metageneration"
  | .size => "size"
  | .componentCount => "componentCount"
  | .deleteTime => "timeDeleted"
  | .updateTime => "updated"
  | .owner => "owner"
  | .acl => "acl"
  | .metadata => "metadata"
  | .cacheControl => "cacheControl"
  | .contentType => "contentType"
  | .contentEncoding => "contentEncoding"
  | .contentDisposition => "contentDisposition"
  | .contentLanguage => "contentLanguage"
  | .md5 => "md5Hash"
  | .crc32c => "crc32c"

/-- The values that a field may hold. -/
def Kind : Field → Value → Prop
  | .bucket | .name => IsText
  | .id | .selfLink | .mediaLink | .etag => Optional IsText
  | .generation | .metageneration | .size => Optional IsFitting
  | .componentCount => Optional IsInteger
  | .deleteTime | .updateTime => Optional IsInstant
  | .owner => Optional IsEntity
  | .acl => Optional (IsListOf IsGrant)
  | .metadata => Optional (IsMapOf AreTexts)
  | .cacheControl | .contentType | .contentEncoding | .contentDisposition => IsClearable
  | .contentLanguage | .md5 | .crc32c => IsClearable

/-- The values that a resource may have at the key of a field, besides nothing. -/
def Admits : Field → Value → Prop
  | .generation | .metageneration | .size => IsNumeral
  | .componentCount => IsInteger
  | .owner => IsMapOf fun es => Optional IsText ((valueAt? "entity" es).getD .null)
  | .acl => IsListOf (IsMapOf fun _ => True)
  | .metadata => IsMapOf AreTexts
  | _ => IsText

/-- The codec of a field. -/
def codec : Field → Codec
  | .bucket => .required "bucket"
  | .name => .required "name"
  | .id | .selfLink | .mediaLink | .etag => (Form.asIs IsText).optional
  | .generation => (Form.integer "generation").optional
  | .metageneration => (Form.integer "metageneration").optional
  | .size => (Form.integer "size").optional
  | .componentCount => (Form.asIs IsInteger).optional
  | .deleteTime => (Form.instant "timeDeleted").optional
  | .updateTime => (Form.instant "updated").optional
  | .owner => Entity.form.within "entity"
  | .acl => Grant.form.list.optional
  | .metadata => metadataForm.optional
  | .cacheControl | .contentType | .contentEncoding | .contentDisposition => .clearable
  | .contentLanguage | .md5 | .crc32c => .clearable

theorem lawful_codec : ∀ f : Field, f.codec.Lawful
  | .bucket | .name => Codec.lawful_required _
  | .id | .selfLink | .mediaLink | .etag => Form.lawful_optional Form.lawful_text
  | .generation | .metageneration | .size => Form.lawful_optional (Form.lawful_integer _)
  | .componentCount => Form.lawful_optional Form.lawful_number
  | .deleteTime | .updateTime => Form.lawful_optional (Form.lawful_instant _)
  | .owner => Form.lawful_within Entity.lawful_form _
  | .acl => Form.lawful_optional Grant.lawful_list
  | .metadata => Form.lawful_optional lawful_metadataForm
  | .cacheControl | .contentType | .contentEncoding | .contentDisposition => Codec.lawful_clearable
  | .contentLanguage | .md5 | .crc32c => Codec.lawful_clearable

end Field

/-- The fields of an object in the order in which they are written. -/
def layout : Layout Field where
  fields := Field.all
  mem_fields f := by cases f <;> decide
  key := Field.key
  nodup_keys := by decide
  codec := Field.codec

theorem lawful_layout : layout.Lawful := Field.lawful_codec

/-- **An object is read field by field.** -/
theorem decode_map_eq_ok_iff {es : List (String × Value)} {o : Object} :
    (decode (.map es)).result = .ok o ↔ layout.Reads es o.toDraft.get := by
  simp only [decode, Traced.result_bind, Traced.result_liftM, Traced.result_remark,
    Traced.result_pure, Result.bind_eq_ok_iff, readRequired_map, integerField_map, instantField_map,
    readClearable_map, Entity.decodeOwner_map, Grant.decodeAll_map,
    field_map_eq_ok_iff _ _ _ IsText, Form.readItems_eq_ok_iff, Except.ok.injEq]
  -- Each step is now the read of a codec, and the last one builds what was read.
  constructor
  · rintro ⟨bucket, hbucket, name, hname, id, hid, selfLink, hselfLink, mediaLink, hmediaLink,
      etag, hetag, count, hcount, generation, hgeneration, metageneration, hmetageneration,
      _, hes, metadata, hmetadata, deleteTime, hdeleteTime, updateTime, hupdateTime, size, hsize,
      owner, howner, acl, hacl, cacheControl, hcacheControl, contentType, hcontentType,
      contentEncoding, hcontentEncoding, contentDisposition, hcontentDisposition,
      contentLanguage, hcontentLanguage, md5, hmd5, crc32c, hcrc32c, built, hbuilt, _, -, rfl⟩
    rw [toDraft_of_build hbuilt]
    -- The texts of users are read in two steps.
    rw [asIs_optional_read] at hes
    cases hes
    intro f
    cases f <;> assumption
  · intro reads
    refine ⟨o.bucket, reads .bucket, o.name, reads .name, o.id, reads .id, o.selfLink,
      reads .selfLink, o.mediaLink, reads .mediaLink, o.etag, reads .etag, o.componentCount,
      reads .componentCount, o.generation, reads .generation, o.metageneration,
      reads .metageneration, _, asIs_optional_read _ _, o.metadata, reads .metadata, o.deleteTime,
      reads .deleteTime, o.updateTime, reads .updateTime, o.size, reads .size, o.owner,
      reads .owner, o.acl, reads .acl, o.cacheControl, reads .cacheControl, o.contentType,
      reads .contentType, o.contentEncoding, reads .contentEncoding, o.contentDisposition,
      reads .contentDisposition, o.contentLanguage, reads .contentLanguage, o.md5, reads .md5,
      o.crc32c, reads .crc32c, o, build_toDraft o, (), trivial, rfl⟩

/-- **An object is written field by field.** -/
theorem encode_of_writes {o : Object} {es : List (String × Value)}
    (h : layout.Writes o.toDraft.get es) : o.encode = .ok (.map es) := by
  obtain ⟨slot, hslot, rfl⟩ := h
  obtain ⟨generation, hg, eg⟩ := exists_entry "generation"
    (integerValue_map_present "generation" _) (hslot .generation)
  obtain ⟨metageneration, hm, em⟩ := exists_entry "metageneration"
    (integerValue_map_present "metageneration" _) (hslot .metageneration)
  obtain ⟨size, hs, es⟩ := exists_entry "size" (integerValue_map_present "size" _) (hslot .size)
  obtain ⟨deleted, hd, ed⟩ := exists_entry "timeDeleted" (instantValue_map_present _ _)
    (hslot .deleteTime)
  obtain ⟨updated, hu, eu⟩ := exists_entry "updated" (instantValue_map_present _ _)
    (hslot .updateTime)
  obtain ⟨owner, ho, eo⟩ := exists_entry "owner" (Entity.encodeOwner_map_present _) (hslot .owner)
  obtain ⟨acl, ha, ea⟩ := exists_entry "acl" (Grant.encodeAll_map_present _) (hslot .acl)
  -- What has to be computed is there; what is left is to compare the entries, one by one.
  refine Result.bind_eq_ok_iff.2 ⟨generation, hg, Result.bind_eq_ok_iff.2 ⟨metageneration, hm,
    Result.bind_eq_ok_iff.2 ⟨size, hs, Result.bind_eq_ok_iff.2 ⟨deleted, hd,
    Result.bind_eq_ok_iff.2 ⟨updated, hu, Result.bind_eq_ok_iff.2 ⟨owner, ho,
    Result.bind_eq_ok_iff.2 ⟨acl, ha, ?_⟩⟩⟩⟩⟩⟩⟩
  rw [eg, em, es, ed, eu, eo, ea, entry_of_required _ o.bucket (hslot .bucket),
    entry_of_required _ o.name (hslot .name), entry_of_asIs _ o.id (hslot .id),
    entry_of_asIs _ o.selfLink (hslot .selfLink), entry_of_asIs _ o.mediaLink (hslot .mediaLink),
    entry_of_asIs _ o.etag (hslot .etag), entry_of_asIs _ o.componentCount (hslot .componentCount),
    entry_of_asIs (P := IsMapOf AreTexts) _ o.metadata (hslot .metadata)]
  simp only [clearableKeys, List.flatMap_cons, List.flatMap_nil,
    clearableEntry_eq _ _ (hslot .cacheControl), clearableEntry_eq _ _ (hslot .contentType),
    clearableEntry_eq _ _ (hslot .contentEncoding), clearableEntry_eq _ _ (hslot .contentLanguage),
    clearableEntry_eq _ _ (hslot .contentDisposition), clearableEntry_eq _ _ (hslot .md5),
    clearableEntry_eq _ _ (hslot .crc32c), List.append_assoc]
  rfl

/-- An object that can be written is written field by field. -/
theorem writes_of_encode {o : Object} {r : Value} (h : o.encode = .ok r) :
    ∃ es, r = .map es ∧ layout.Writes o.toDraft.get es := by
  have encoded := h
  obtain ⟨generation, hg, h⟩ := Result.bind_eq_ok_iff.1 h
  obtain ⟨metageneration, hm, h⟩ := Result.bind_eq_ok_iff.1 h
  obtain ⟨size, hs, h⟩ := Result.bind_eq_ok_iff.1 h
  obtain ⟨deleted, hd, h⟩ := Result.bind_eq_ok_iff.1 h
  obtain ⟨updated, hu, h⟩ := Result.bind_eq_ok_iff.1 h
  obtain ⟨owner, ho, h⟩ := Result.bind_eq_ok_iff.1 h
  obtain ⟨acl, ha, -⟩ := Result.bind_eq_ok_iff.1 h
  have each : ∀ f, ∃ s, (layout.codec f).write (o.toDraft.get f) = .ok s := by
    intro f
    cases f with
    | bucket | name => exact ⟨_, rfl⟩
    | id | selfLink | mediaLink | etag | componentCount => exact exists_write_asIs _ _
    | metadata => exact exists_write_asIs o.metadata (IsMapOf AreTexts)
    | generation => exact exists_write (integerValue_map_present _ _) hg
    | metageneration => exact exists_write (integerValue_map_present _ _) hm
    | size => exact exists_write (integerValue_map_present _ _) hs
    | deleteTime => exact exists_write (instantValue_map_present _ _) hd
    | updateTime => exact exists_write (instantValue_map_present _ _) hu
    | owner => exact exists_write (Entity.encodeOwner_map_present _) ho
    | acl => exact exists_write (Grant.encodeAll_map_present _) ha
    | _ => exact exists_write_clearable _
  obtain ⟨es, writes⟩ := Layout.exists_writes each
  exact ⟨es, Except.ok.inj (encoded.symm.trans (encode_of_writes writes)), writes⟩

end StorageMetadata.Object
