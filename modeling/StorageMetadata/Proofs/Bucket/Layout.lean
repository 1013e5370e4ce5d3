import StorageMetadata.Proofs.Access.Grant
import StorageMetadata.Proofs.Bucket.Website
import StorageMetadata.Proofs.CrossOrigin.Rule

/-!
# How buckets are laid out

The fourteen keys of a bucket's resource, each with its codec.  They hold the fifteen fields of a
bucket, since the two pages of the website are at one key.  A bucket is read and written key by key,
in this layout:

    (decode (.map es)).result = .ok b ↔ layout.Reads es b.toDraft.part,
    layout.Writes b.toDraft.part es → b.encode = .ok (.map es).
-/

namespace StorageMetadata.Bucket

open StorageMetadata.Resource StorageMetadata.Value

/-- The keys of a bucket's resource. -/
inductive Key where
  | name
  | id
  | selfLink
  | owner
  | etag
  | location
  | storageClass
  | versioning
  | website
  | timeCreated
  | metageneration
  | cors
  | acl
  | defaultObjectAcl
  deriving DecidableEq, Repr

namespace Key

/-- The keys in the order in which they are written. -/
def all : List Key :=
  [.name, .id, .selfLink, .owner, .etag, .location, .storageClass, .versioning, .website,
  .timeCreated, .metageneration, .cors, .acl, .defaultObjectAcl]

/-- The text of a key. -/
def text : Key → String
  | .name => "name"
  | .id => "id"
  | .selfLink => "selfLink"
  | .owner => "owner"
  | .etag => "etag"
  | .location => "location"
  | .storageClass => "storageClass"
  | .versioning => "versioning"
  | .website => "website"
  | .timeCreated => "timeCreated"
  | .metageneration => "metageneration"
  | .cors => "cors"
  | .acl => "acl"
  | .defaultObjectAcl => "defaultObjectAcl"

/-- The values that a resource may have at a key, besides nothing. -/
def Admits : Key → Value → Prop
  | .metageneration => IsNumeral
  | .owner => IsMapOf fun es => Optional IsText ((valueAt? "entity" es).getD .null)
  | .versioning => IsMapOf fun es => Optional IsFlag ((valueAt? "enabled" es).getD .null)
  | .website => IsMapOf fun es => Optional IsText ((valueAt? "mainPageSuffix" es).getD .null) ∧
      Optional IsText ((valueAt? "notFoundPage" es).getD .null)
  | .cors => IsListOf (IsMapOf CorsRule.Admits)
  | .acl | .defaultObjectAcl => IsListOf (IsMapOf fun _ => True)
  | _ => IsText

/-- The codec of what is at a key. -/
def codec : Key → Codec
  | .name => .required "name"
  | .id | .selfLink | .etag | .location | .storageClass => (Form.asIs IsText).optional
  | .owner => Entity.form.within "entity"
  | .versioning => (Form.asIs IsFlag).within "enabled"
  | .website => websiteCodec
  | .timeCreated => (Form.instant "timeCreated").optional
  | .metageneration => (Form.integer "metageneration").optional
  | .cors => CorsRule.form.list.optional
  | .acl | .defaultObjectAcl => Grant.form.list.optional

theorem lawful_codec : ∀ k : Key, k.codec.Lawful
  | .name => Codec.lawful_required _
  | .id | .selfLink | .etag | .location | .storageClass => Form.lawful_optional Form.lawful_text
  | .owner => Form.lawful_within Entity.lawful_form _
  | .versioning => Form.lawful_within Form.lawful_flag _
  | .website => lawful_websiteCodec
  | .timeCreated => Form.lawful_optional (Form.lawful_instant _)
  | .metageneration => Form.lawful_optional (Form.lawful_integer _)
  | .cors => Form.lawful_optional CorsRule.lawful_list
  | .acl | .defaultObjectAcl => Form.lawful_optional Grant.lawful_list

end Key

/-- The values that a field may hold. -/
def Field.Kind : Field → Value → Prop
  | .name => IsText
  | .id | .selfLink | .etag | .location | .storageClass => Optional IsText
  | .owner => Optional IsEntity
  | .versioningEnabled => Optional IsFlag
  | .indexPage | .notFoundPage => Optional IsText
  | .createTime => Optional IsInstant
  | .metageneration => Optional IsFitting
  | .cors => Optional (IsListOf IsRule)
  | .acl | .defaultAcl => Optional (IsListOf IsGrant)

/-- What is kept at a key: a field, or the list of both pages of the website. -/
def Draft.part (d : Draft) : Key → Value
  | .name => d.name
  | .id => d.id
  | .selfLink => d.selfLink
  | .owner => d.owner
  | .etag => d.etag
  | .location => d.location
  | .storageClass => d.storageClass
  | .versioning => d.versioningEnabled
  | .website => .list [d.indexPage, d.notFoundPage]
  | .timeCreated => d.createTime
  | .metageneration => d.metageneration
  | .cors => ofList? d.cors
  | .acl => ofList? d.acl
  | .defaultObjectAcl => ofList? d.defaultAcl

/-- The keys of a bucket's resource in the order in which they are written. -/
def layout : Layout Key where
  fields := Key.all
  mem_fields k := by cases k <;> decide
  key := Key.text
  nodup_keys := by decide
  codec := Key.codec

theorem lawful_layout : layout.Lawful := Key.lawful_codec

/-! ### Sections and rules -/

theorem sectionField_map (key inner : String) (es : List (String × Value)) (P : Value → Prop) :
    sectionField key inner (.map es) = ((Form.asIs P).within inner).read (valueAt? key es) := by
  show (if (valueAt? key es).getD .null = .null then _ else _ : Result Value) = _
  simp only [Form.within, asIs_optional_read, Option.getD_some]
  split
  next => rfl
  next => exact (bind_pure _).symm

/-- The pages of the website are read together. -/
theorem website_read_eq_ok_iff {es : List (String × Value)} {index missing : Value} :
    websiteCodec.read (valueAt? "website" es) = .ok (.list [index, missing]) ↔
      sectionField "website" "mainPageSuffix" (.map es) = .ok index ∧
        sectionField "website" "notFoundPage" (.map es) = .ok missing := by
  show _ ↔ (if (valueAt? "website" es).getD .null = .null then _ else _) = _ ∧
    (if (valueAt? "website" es).getD .null = .null then _ else _) = _
  simp only [websiteCodec]
  split
  next =>
    constructor
    · intro h
      cases h
      exact ⟨rfl, rfl⟩
    · rintro ⟨hi, hm⟩
      cases hi
      cases hm
      rfl
  next =>
    simp only [Result.bind_eq_ok_iff]
    constructor
    · rintro ⟨_, hi, _, hm, h⟩
      cases h
      exact ⟨hi, hm⟩
    · rintro ⟨hi, hm⟩
      exact ⟨index, hi, missing, hm, rfl⟩

theorem decodeRules_map (es : List (String × Value)) :
    (decodeRules (.map es)).result = CorsRule.form.readItems (valueAt? "cors" es) :=
  Form.result_readItems _ fun _ => Traced.result_bind_pure _ _

theorem encodeRules_map_present (items : Option (List Value)) :
    (encodeRules items).map present = CorsRule.form.list.optional.write (ofList? items) :=
  CorsRule.form.items_map_present items

theorem entry_of_within {key inner : String} {v : Value} {P : Value → Prop} {s : Option Value}
    (h : ((Form.asIs P).within inner).write v = .ok s) :
    entry key (sectionOf (entry inner v)) = slotEntry key s := by
  simp only [Form.within, asIs_optional_write] at h
  cases h
  rw [entry_eq, entry_eq]
  cases present v <;> rfl

theorem entry_of_website {index missing : Value} {s : Option Value}
    (h : websiteCodec.write (.list [index, missing]) = .ok s) :
    entry "website" (sectionOf (entry "mainPageSuffix" index ++ entry "notFoundPage" missing)) =
      slotEntry "website" s := by
  cases h
  exact entry_eq _ _

/-! ### Reading and writing a bucket -/

/-- **A bucket is read key by key.** -/
theorem decode_map_eq_ok_iff {es : List (String × Value)} {b : Bucket} :
    (decode (.map es)).result = .ok b ↔ layout.Reads es b.toDraft.part := by
  simp only [decode, Traced.result_bind, Traced.result_liftM, Traced.result_remark,
    Traced.result_pure, Result.bind_eq_ok_iff, readRequired_map, integerField_map, instantField_map,
    Entity.decodeOwner_map, Grant.decodeAll_map, decodeRules_map, field_map_eq_ok_iff _ _ _ IsText,
    Form.readItems_eq_ok_iff, Except.ok.injEq]
  -- Each step is now the read of a codec, but for the sections, and the last one builds what was
  -- read.
  constructor
  · rintro ⟨name, hname, id, hid, selfLink, hselfLink, etag, hetag, location, hlocation,
      storageClass, hstorageClass, owner, howner, versioning, hversioning, index, hindex, missing,
      hmissing, createTime, hcreateTime, metageneration, hmetageneration, cors, hcors, acl, hacl,
      defaultAcl, hdefaultAcl, built, hbuilt, _, -, rfl⟩
    have hwebsite := website_read_eq_ok_iff.2 ⟨hindex, hmissing⟩
    rw [sectionField_map _ _ _ IsFlag] at hversioning
    rw [toDraft_of_build hbuilt]
    intro k
    cases k <;> assumption
  · intro reads
    obtain ⟨index, missing⟩ := website_read_eq_ok_iff.1 (reads .website)
    have versioning := sectionField_map "versioning" "enabled" es IsFlag
    exact ⟨b.name, reads .name, b.id, reads .id, b.selfLink, reads .selfLink, b.etag, reads .etag,
      b.location, reads .location, b.storageClass, reads .storageClass, b.owner, reads .owner,
      b.versioningEnabled, versioning.trans (reads .versioning), b.indexPage, index,
      b.notFoundPage, missing, b.createTime, reads .timeCreated, b.metageneration,
      reads .metageneration, b.cors, reads .cors, b.acl, reads .acl, b.defaultAcl,
      reads .defaultObjectAcl, b, build_toDraft b, (), trivial, rfl⟩

/-- **A bucket is written key by key.** -/
theorem encode_of_writes {b : Bucket} {es : List (String × Value)}
    (h : layout.Writes b.toDraft.part es) : b.encode = .ok (.map es) := by
  obtain ⟨slot, hslot, rfl⟩ := h
  obtain ⟨owner, ho, eo⟩ := exists_entry "owner" (Entity.encodeOwner_map_present _) (hslot .owner)
  obtain ⟨created, ht, et⟩ := exists_entry "timeCreated" (instantValue_map_present _ _)
    (hslot .timeCreated)
  obtain ⟨metageneration, hm, em⟩ := exists_entry "metageneration"
    (integerValue_map_present "metageneration" _) (hslot .metageneration)
  obtain ⟨cors, hc, ec⟩ := exists_entry "cors" (encodeRules_map_present _) (hslot .cors)
  obtain ⟨acl, ha, ea⟩ := exists_entry "acl" (Grant.encodeAll_map_present _) (hslot .acl)
  obtain ⟨defaultAcl, hd, ed⟩ := exists_entry "defaultObjectAcl" (Grant.encodeAll_map_present _)
    (hslot .defaultObjectAcl)
  -- What has to be computed is there; what is left is to compare the entries, one by one.
  refine Result.bind_eq_ok_iff.2 ⟨owner, ho, Result.bind_eq_ok_iff.2 ⟨created, ht,
    Result.bind_eq_ok_iff.2 ⟨metageneration, hm, Result.bind_eq_ok_iff.2 ⟨cors, hc,
    Result.bind_eq_ok_iff.2 ⟨acl, ha, Result.bind_eq_ok_iff.2 ⟨defaultAcl, hd, ?_⟩⟩⟩⟩⟩⟩
  rw [eo, et, em, ec, ea, ed, entry_of_required _ b.name (hslot .name),
    entry_of_asIs _ b.id (hslot .id), entry_of_asIs _ b.selfLink (hslot .selfLink),
    entry_of_asIs _ b.etag (hslot .etag), entry_of_asIs _ b.location (hslot .location),
    entry_of_asIs _ b.storageClass (hslot .storageClass),
    entry_of_within (v := b.versioningEnabled) (hslot .versioning),
    entry_of_website (hslot .website)]
  simp [layout, Layout.entries, Key.all, Key.text, pure, Except.pure]

/-- A bucket that can be written is written key by key. -/
theorem writes_of_encode {b : Bucket} {r : Value} (h : b.encode = .ok r) :
    ∃ es, r = .map es ∧ layout.Writes b.toDraft.part es := by
  have encoded := h
  obtain ⟨owner, ho, h⟩ := Result.bind_eq_ok_iff.1 h
  obtain ⟨created, ht, h⟩ := Result.bind_eq_ok_iff.1 h
  obtain ⟨metageneration, hm, h⟩ := Result.bind_eq_ok_iff.1 h
  obtain ⟨cors, hc, h⟩ := Result.bind_eq_ok_iff.1 h
  obtain ⟨acl, ha, h⟩ := Result.bind_eq_ok_iff.1 h
  obtain ⟨defaultAcl, hd, -⟩ := Result.bind_eq_ok_iff.1 h
  have each : ∀ k, ∃ s, (layout.codec k).write (b.toDraft.part k) = .ok s := by
    intro k
    cases k with
    | name | website => exact ⟨_, rfl⟩
    | id | selfLink | etag | location | storageClass => exact exists_write_asIs _ _
    | versioning =>
      obtain ⟨s, hs⟩ := exists_write_asIs b.versioningEnabled IsFlag
      exact ⟨_, Result.map_eq_ok_iff.2 ⟨s, hs, rfl⟩⟩
    | owner => exact exists_write (Entity.encodeOwner_map_present _) ho
    | timeCreated => exact exists_write (instantValue_map_present _ _) ht
    | metageneration => exact exists_write (integerValue_map_present _ _) hm
    | cors => exact exists_write (encodeRules_map_present _) hc
    | acl => exact exists_write (Grant.encodeAll_map_present _) ha
    | defaultObjectAcl => exact exists_write (Grant.encodeAll_map_present _) hd
  obtain ⟨es, writes⟩ := Layout.exists_writes each
  exact ⟨es, Except.ok.inj (encoded.symm.trans (encode_of_writes writes)), writes⟩

end StorageMetadata.Bucket
