import StorageMetadata.Filling
import StorageMetadata.Resource.Entry

/-!
# Objects and their drafts

The metadata of a stored object has twenty-two fields.  A draft holds them while they are being
filled in, each field at first holding nothing; an object is a draft that has a bucket and a name.
`Draft.fill` puts a value into a field the way callers do it: nothing is refused for the bucket and
the name, and clears the seven fields with three states; the access list and the user's metadata
are copied.  Setting one field leaves the others alone,

    d.set f v = .ok d' → g ≠ f → d'.get g = d.get g.

`Object.refill` does not go that way.  An unset field and a cleared one must be kept apart, so it
puts the fields of an object into a draft as they are.
-/

namespace StorageMetadata.Object

open StorageMetadata.Resource

/-- The fields of an object. -/
inductive Field where
  | bucket
  | name
  | id
  | selfLink
  | mediaLink
  | etag
  | generation
  | metageneration
  | size
  | componentCount
  | deleteTime
  | updateTime
  | owner
  | acl
  | metadata
  | cacheControl
  | contentType
  | contentEncoding
  | contentDisposition
  | contentLanguage
  | md5
  | crc32c
  deriving DecidableEq, Repr

namespace Field

/-- The fields in the order in which a record lists them. -/
def all : List Field :=
  [.bucket, .name, .id, .selfLink, .mediaLink, .etag, .generation, .metageneration, .size,
  .componentCount, .deleteTime, .updateTime, .owner, .acl, .metadata, .cacheControl,
  .contentType, .contentEncoding, .contentDisposition, .contentLanguage, .md5, .crc32c]

/-- The name of a field for callers. -/
def label : Field → String
  | .bucket => "bucket"
  | .name => "name"
  | .id => "id"
  | .selfLink => "self_link"
  | .mediaLink => "media_link"
  | .etag => "etag"
  | .generation => "generation"
  | .metageneration => "metageneration"
  | .size => "size"
  | .componentCount => "component_count"
  | .deleteTime => "delete_time"
  | .updateTime => "update_time"
  | .owner => "owner"
  | .acl => "acl"
  | .metadata => "metadata"
  | .cacheControl => "cache_control"
  | .contentType => "content_type"
  | .contentEncoding => "content_encoding"
  | .contentDisposition => "content_disposition"
  | .contentLanguage => "content_language"
  | .md5 => "md5"
  | .crc32c => "crc32c"

/-- Can the field be cleared, so that it has three states? -/
def isClearable : Field → Bool
  | .cacheControl | .contentType | .contentEncoding | .contentDisposition | .contentLanguage => true
  | .md5 | .crc32c => true
  | _ => false

end Field

/-- The metadata of an object while it is being filled in. -/
structure Draft where
  bucket : Value := .null
  name : Value := .null
  id : Value := .null
  selfLink : Value := .null
  mediaLink : Value := .null
  etag : Value := .null
  generation : Value := .null
  metageneration : Value := .null
  /-- The number of octets of the content. -/
  size : Value := .null
  componentCount : Value := .null
  /-- When the object was deleted, in milliseconds. -/
  deleteTime : Value := .null
  /-- When the object was last changed, in milliseconds. -/
  updateTime : Value := .null
  /-- The entity that owns the object. -/
  owner : Value := .null
  /-- The grants, if any are known. -/
  acl : Option (List Value) := none
  /-- Texts that users keep with the object, by key. -/
  metadata : Value := .null
  /-- The first of the seven fields with three states. -/
  cacheControl : Value := .null
  contentType : Value := .null
  contentEncoding : Value := .null
  contentDisposition : Value := .null
  contentLanguage : Value := .null
  md5 : Value := .null
  crc32c : Value := .null

namespace Draft

/-- What a field of a draft holds. -/
def get (d : Draft) : Field → Value
  | .bucket => d.bucket
  | .name => d.name
  | .id => d.id
  | .selfLink => d.selfLink
  | .mediaLink => d.mediaLink
  | .etag => d.etag
  | .generation => d.generation
  | .metageneration => d.metageneration
  | .size => d.size
  | .componentCount => d.componentCount
  | .deleteTime => d.deleteTime
  | .updateTime => d.updateTime
  | .owner => d.owner
  | .acl => Value.ofList? d.acl
  | .metadata => d.metadata
  | .cacheControl => d.cacheControl
  | .contentType => d.contentType
  | .contentEncoding => d.contentEncoding
  | .contentDisposition => d.contentDisposition
  | .contentLanguage => d.contentLanguage
  | .md5 => d.md5
  | .crc32c => d.crc32c

/-- Puts a value into a field.  What is given is looked at first. -/
def fill (f : Field) (v : Value) : Filling Draft Unit :=
  match f with
  | .bucket => do
    if v = .null then throw (.missingField "bucket")
    modify fun d => { d with bucket := v }
  | .name => do
    if v = .null then throw (.missingField "name")
    modify fun d => { d with name := v }
  | .id => modify fun d => { d with id := v }
  | .selfLink => modify fun d => { d with selfLink := v }
  | .mediaLink => modify fun d => { d with mediaLink := v }
  | .etag => modify fun d => { d with etag := v }
  | .generation => modify fun d => { d with generation := v }
  | .metageneration => modify fun d => { d with metageneration := v }
  | .size => modify fun d => { d with size := v }
  | .componentCount => modify fun d => { d with componentCount := v }
  | .deleteTime => modify fun d => { d with deleteTime := v }
  | .updateTime => modify fun d => { d with updateTime := v }
  | .owner => modify fun d => { d with owner := v }
  | .acl => do
    let acl ← sequence? v
    modify fun d => { d with acl }
  | .metadata => do
    let metadata ← mapValue v
    modify fun d => { d with metadata }
  | .cacheControl => modify fun d => { d with cacheControl := clearable v }
  | .contentType => modify fun d => { d with contentType := clearable v }
  | .contentEncoding => modify fun d => { d with contentEncoding := clearable v }
  | .contentDisposition => modify fun d => { d with contentDisposition := clearable v }
  | .contentLanguage => modify fun d => { d with contentLanguage := clearable v }
  | .md5 => modify fun d => { d with md5 := clearable v }
  | .crc32c => modify fun d => { d with crc32c := clearable v }

/-- The draft with a value put into a field. -/
def set (d : Draft) (f : Field) (v : Value) : Result Draft := (fill f v).draft d

/-- The draft with what another one holds in a field, as it is held there. -/
def take (other : Draft) (f : Field) (d : Draft) : Draft :=
  match f with
  | .bucket => { d with bucket := other.bucket }
  | .name => { d with name := other.name }
  | .id => { d with id := other.id }
  | .selfLink => { d with selfLink := other.selfLink }
  | .mediaLink => { d with mediaLink := other.mediaLink }
  | .etag => { d with etag := other.etag }
  | .generation => { d with generation := other.generation }
  | .metageneration => { d with metageneration := other.metageneration }
  | .size => { d with size := other.size }
  | .componentCount => { d with componentCount := other.componentCount }
  | .deleteTime => { d with deleteTime := other.deleteTime }
  | .updateTime => { d with updateTime := other.updateTime }
  | .owner => { d with owner := other.owner }
  | .acl => { d with acl := other.acl }
  | .metadata => { d with metadata := other.metadata }
  | .cacheControl => { d with cacheControl := other.cacheControl }
  | .contentType => { d with contentType := other.contentType }
  | .contentEncoding => { d with contentEncoding := other.contentEncoding }
  | .contentDisposition => { d with contentDisposition := other.contentDisposition }
  | .contentLanguage => { d with contentLanguage := other.contentLanguage }
  | .md5 => { d with md5 := other.md5 }
  | .crc32c => { d with crc32c := other.crc32c }

/-- What a field holds after a value has been put into it. -/
def stored (f : Field) (v : Value) : Result Value :=
  match f with
  | .bucket | .name => if v = .null then .error (.missingField f.label) else .ok v
  | .acl => (sequence? v).map Value.ofList?
  | .metadata => mapValue v
  | _ => .ok (if f.isClearable then clearable v else v)

/-- A draft whose fields are given one by one.  The bucket and the name are asked for first, then
the lists are copied. -/
def ofFields (given : Field → Value) : Result Draft := do
  if given .bucket = .null then .error (.missingField "bucket")
  if given .name = .null then .error (.missingField "name")
  let acl ← sequence? (given .acl)
  let metadata ← mapValue (given .metadata)
  return {
    bucket := given .bucket, name := given .name, id := given .id, selfLink := given .selfLink
    mediaLink := given .mediaLink, etag := given .etag, generation := given .generation
    metageneration := given .metageneration, size := given .size
    componentCount := given .componentCount, deleteTime := given .deleteTime
    updateTime := given .updateTime, owner := given .owner, acl, metadata
    cacheControl := given .cacheControl, contentType := given .contentType
    contentEncoding := given .contentEncoding, contentDisposition := given .contentDisposition
    contentLanguage := given .contentLanguage, md5 := given .md5, crc32c := given .crc32c }

end Draft

end StorageMetadata.Object

namespace StorageMetadata

open StorageMetadata.Resource

/-- The metadata of a stored object. -/
structure Object extends Object.Draft where
  bucket_ne_null : toDraft.bucket ≠ .null
  name_ne_null : toDraft.name ≠ .null

namespace Object

/-- The object that a draft describes. -/
def Draft.build (d : Draft) : Result Object :=
  if hb : d.bucket = .null then .error (.missingField "bucket")
  else if hn : d.name = .null then .error (.missingField "name")
  else .ok { d with bucket_ne_null := hb, name_ne_null := hn }

/-- The name of a bucket where a bucket is given, or the value as it is. -/
def bucketName : Value → Value
  | .record ⟨.bucket name, _, _, _, _⟩ => name
  | v => v

/-- A draft of an object with a bucket and a name; the bucket may be given by its record. -/
def draft (bucket name : Value) : Result Draft := do
  (← (({} : Draft).set .bucket (bucketName bucket))).set .name name

/-- An object with nothing but a bucket and a name. -/
def of (bucket name : Value) : Result Object := do
  (← draft bucket name).build

/-- What callers see in a field: a cleared field looks like an unset one. -/
def view (o : Object) (f : Field) : Value :=
  if f.isClearable then collapse (o.toDraft.get f) else o.toDraft.get f

/-- A draft with the fields of an object builds that object again. -/
@[simp] theorem build_toDraft (o : Object) : o.toDraft.build = .ok o := by
  unfold Draft.build
  rw [dif_neg o.bucket_ne_null, dif_neg o.name_ne_null]

/-- The object that was built has the fields of the draft. -/
theorem toDraft_of_build {d : Draft} {o : Object} (h : d.build = .ok o) : o.toDraft = d := by
  unfold Draft.build at h
  split at h
  · cases h
  · split at h
    · cases h
    · cases h; rfl

/-! ### Finishing and copying -/

/-- The object that the draft describes at this point. -/
def Draft.finish : Filling Draft Object := do (← getThe Draft).build

/-- Puts the fields of an object into a draft as they are.  Fields that hold nothing are passed
over. -/
def refill (o : Object) : Filling Draft Unit :=
  Field.all.forM fun f => do
    if o.toDraft.get f ≠ .null then modify (Draft.take o.toDraft f)

/-- A draft with the fields of an object. -/
def copy (o : Object) : Result Draft := o.refill.draft {}

namespace Draft

/-- A value is put into a field in its stored form, and into no other. -/
theorem puts_fill (f : Field) (v : Value) : Filling.Puts get f (stored f v) (fill f v) := by
  cases f
  case bucket | name =>
    refine Filling.puts_unless (Filling.puts_modify (fun _ => rfl) fun d g hne => ?_)
    cases g <;> first | rfl | exact absurd rfl hne
  case acl =>
    refine Filling.puts_bind fun _ => Filling.puts_modify (fun _ => rfl) fun d g hne => ?_
    cases g <;> first | rfl | exact absurd rfl hne
  case metadata =>
    have copied : stored .metadata v = (mapValue v).map fun m => m :=
      (congrFun Except.map_id _).symm
    rw [copied]
    refine Filling.puts_bind fun _ => Filling.puts_modify (fun _ => rfl) fun d g hne => ?_
    cases g <;> first | rfl | exact absurd rfl hne
  all_goals
    refine Filling.puts_modify (fun _ => rfl) fun d g hne => ?_
    cases g <;> first | rfl | exact absurd rfl hne

/-- What another draft holds in a field is taken over as it is. -/
theorem puts_take (other : Draft) (f : Field) :
    Filling.Puts get f (.ok (other.get f)) (modify (take other f)) := by
  cases f
  all_goals
    refine Filling.puts_modify (fun _ => rfl) fun d g hne => ?_
    cases g <;> first | rfl | exact absurd rfl hne

/-- A value that was put into a field is held there in its stored form. -/
theorem get_set {d d' : Draft} {f : Field} {v : Value} (h : d.set f v = .ok d') :
    stored f v = .ok (d'.get f) :=
  ((puts_fill f v).of_after_ok (Filling.draft_eq_ok_iff.1 h)).1

/-- Putting a value into one field leaves the others alone. -/
theorem get_set_ne {d d' : Draft} {f g : Field} {v : Value} (h : d.set f v = .ok d')
    (hne : g ≠ f) : d'.get g = d.get g :=
  ((puts_fill f v).of_after_ok (Filling.draft_eq_ok_iff.1 h)).2 g hne

end Draft

end Object

end StorageMetadata
