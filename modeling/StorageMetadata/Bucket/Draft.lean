import StorageMetadata.Filling
import StorageMetadata.Resource.Entry

/-!
# Buckets and their drafts

The metadata of a bucket has fifteen fields.  A draft holds them while they are being filled in,
and a bucket is a draft that has a name.  `Draft.fill` puts a value into a field: nothing is
refused for the name, and the rules and the two access lists are copied.  Setting one field leaves
the others alone.  `Bucket.refill` puts all fields of a bucket into a draft as they are.
-/

namespace StorageMetadata.Bucket

open StorageMetadata.Resource

/-- The fields of a bucket. -/
inductive Field where
  | name
  | id
  | selfLink
  | owner
  | etag
  | location
  | storageClass
  | versioningEnabled
  | indexPage
  | notFoundPage
  | createTime
  | metageneration
  | cors
  | acl
  | defaultAcl
  deriving DecidableEq, Repr

namespace Field

/-- The fields in the order in which a record lists them. -/
def all : List Field :=
  [.name, .id, .selfLink, .owner, .etag, .location, .storageClass, .versioningEnabled,
  .indexPage, .notFoundPage, .createTime, .metageneration, .cors, .acl, .defaultAcl]

/-- The name of a field for callers. -/
def label : Field → String
  | .name => "name"
  | .id => "id"
  | .selfLink => "self_link"
  | .owner => "owner"
  | .etag => "etag"
  | .location => "location"
  | .storageClass => "storage_class"
  | .versioningEnabled => "versioning_enabled"
  | .indexPage => "index_page"
  | .notFoundPage => "not_found_page"
  | .createTime => "create_time"
  | .metageneration => "metageneration"
  | .cors => "cors"
  | .acl => "acl"
  | .defaultAcl => "default_acl"

end Field

/-- The metadata of a bucket while it is being filled in. -/
structure Draft where
  name : Value := .null
  id : Value := .null
  selfLink : Value := .null
  /-- The entity that owns the bucket. -/
  owner : Value := .null
  etag : Value := .null
  location : Value := .null
  storageClass : Value := .null
  /-- Are old versions of objects kept? -/
  versioningEnabled : Value := .null
  /-- The page that the website shows for a directory. -/
  indexPage : Value := .null
  /-- The page that the website shows for what is missing. -/
  notFoundPage : Value := .null
  /-- When the bucket was created, in milliseconds. -/
  createTime : Value := .null
  metageneration : Value := .null
  /-- The cross-origin rules, if any are known. -/
  cors : Option (List Value) := none
  /-- The grants on the bucket, if any are known. -/
  acl : Option (List Value) := none
  /-- The grants that new objects get, if any are known. -/
  defaultAcl : Option (List Value) := none

namespace Draft

/-- What a field of a draft holds. -/
def get (d : Draft) : Field → Value
  | .name => d.name
  | .id => d.id
  | .selfLink => d.selfLink
  | .owner => d.owner
  | .etag => d.etag
  | .location => d.location
  | .storageClass => d.storageClass
  | .versioningEnabled => d.versioningEnabled
  | .indexPage => d.indexPage
  | .notFoundPage => d.notFoundPage
  | .createTime => d.createTime
  | .metageneration => d.metageneration
  | .cors => Value.ofList? d.cors
  | .acl => Value.ofList? d.acl
  | .defaultAcl => Value.ofList? d.defaultAcl

/-- Puts a value into a field.  What is given is looked at first. -/
def fill (f : Field) (v : Value) : Filling Draft Unit :=
  match f with
  | .name => do
    if v = .null then throw (.missingField "name")
    modify fun d => { d with name := v }
  | .id => modify fun d => { d with id := v }
  | .selfLink => modify fun d => { d with selfLink := v }
  | .owner => modify fun d => { d with owner := v }
  | .etag => modify fun d => { d with etag := v }
  | .location => modify fun d => { d with location := v }
  | .storageClass => modify fun d => { d with storageClass := v }
  | .versioningEnabled => modify fun d => { d with versioningEnabled := v }
  | .indexPage => modify fun d => { d with indexPage := v }
  | .notFoundPage => modify fun d => { d with notFoundPage := v }
  | .createTime => modify fun d => { d with createTime := v }
  | .metageneration => modify fun d => { d with metageneration := v }
  | .cors => do
    let cors ← sequence? v
    modify fun d => { d with cors }
  | .acl => do
    let acl ← sequence? v
    modify fun d => { d with acl }
  | .defaultAcl => do
    let defaultAcl ← sequence? v
    modify fun d => { d with defaultAcl }

/-- The draft with a value put into a field. -/
def set (d : Draft) (f : Field) (v : Value) : Result Draft := (fill f v).draft d

/-- The draft with what another one holds in a field, as it is held there. -/
def take (other : Draft) (f : Field) (d : Draft) : Draft :=
  match f with
  | .name => { d with name := other.name }
  | .id => { d with id := other.id }
  | .selfLink => { d with selfLink := other.selfLink }
  | .owner => { d with owner := other.owner }
  | .etag => { d with etag := other.etag }
  | .location => { d with location := other.location }
  | .storageClass => { d with storageClass := other.storageClass }
  | .versioningEnabled => { d with versioningEnabled := other.versioningEnabled }
  | .indexPage => { d with indexPage := other.indexPage }
  | .notFoundPage => { d with notFoundPage := other.notFoundPage }
  | .createTime => { d with createTime := other.createTime }
  | .metageneration => { d with metageneration := other.metageneration }
  | .cors => { d with cors := other.cors }
  | .acl => { d with acl := other.acl }
  | .defaultAcl => { d with defaultAcl := other.defaultAcl }

/-- What a field holds after a value has been put into it. -/
def stored (f : Field) (v : Value) : Result Value :=
  match f with
  | .name => if v = .null then .error (.missingField f.label) else .ok v
  | .cors | .acl | .defaultAcl => (sequence? v).map Value.ofList?
  | _ => .ok v

/-- A draft whose fields are given one by one.  The name is asked for first, then the lists are
copied. -/
def ofFields (given : Field → Value) : Result Draft := do
  if given .name = .null then .error (.missingField "name")
  let cors ← sequence? (given .cors)
  let acl ← sequence? (given .acl)
  let defaultAcl ← sequence? (given .defaultAcl)
  return {
    name := given .name, id := given .id, selfLink := given .selfLink, owner := given .owner
    etag := given .etag, location := given .location, storageClass := given .storageClass
    versioningEnabled := given .versioningEnabled, indexPage := given .indexPage
    notFoundPage := given .notFoundPage, createTime := given .createTime
    metageneration := given .metageneration, cors, acl, defaultAcl }

end Draft

end StorageMetadata.Bucket

namespace StorageMetadata

open StorageMetadata.Resource

/-- The metadata of a bucket. -/
structure Bucket extends Bucket.Draft where
  name_ne_null : toDraft.name ≠ .null

namespace Bucket

/-- The bucket that a draft describes. -/
def Draft.build (d : Draft) : Result Bucket :=
  if hn : d.name = .null then .error (.missingField "name")
  else .ok { d with name_ne_null := hn }

/-- A draft of a bucket with a name. -/
def draft (name : Value) : Result Draft := ({} : Draft).set .name name

/-- A bucket with nothing but a name. -/
def of (name : Value) : Result Bucket := do
  (← draft name).build

/-- A draft with the fields of a bucket builds that bucket again. -/
@[simp] theorem build_toDraft (b : Bucket) : b.toDraft.build = .ok b := by
  unfold Draft.build
  rw [dif_neg b.name_ne_null]

/-- The bucket that was built has the fields of the draft. -/
theorem toDraft_of_build {d : Draft} {b : Bucket} (h : d.build = .ok b) : b.toDraft = d := by
  unfold Draft.build at h
  split at h
  · cases h
  · cases h; rfl

/-! ### Finishing and copying -/

/-- The bucket that the draft describes at this point. -/
def Draft.finish : Filling Draft Bucket := do (← getThe Draft).build

/-- Puts the fields of a bucket into a draft as they are, also those that hold nothing. -/
def refill (b : Bucket) : Filling Draft Unit :=
  Field.all.forM fun f => modify (Draft.take b.toDraft f)

/-- A draft with the fields of a bucket. -/
def copy (b : Bucket) : Result Draft := b.refill.draft {}

namespace Draft

/-- A value is put into a field in its stored form, and into no other. -/
theorem puts_fill (f : Field) (v : Value) : Filling.Puts get f (stored f v) (fill f v) := by
  cases f
  case name =>
    refine Filling.puts_unless (Filling.puts_modify (fun _ => rfl) fun d g hne => ?_)
    cases g <;> first | rfl | exact absurd rfl hne
  case cors | acl | defaultAcl =>
    refine Filling.puts_bind fun _ => Filling.puts_modify (fun _ => rfl) fun d g hne => ?_
    cases g <;> first | rfl | exact absurd rfl hne
  all_goals
    refine Filling.puts_modify (fun _ => rfl) fun d g hne => ?_
    cases g <;> first | rfl | exact absurd rfl hne

/-- What another draft holds in a field is taken over as it is. -/
theorem puts_take (other : Draft) (f : Field) :
    Filling.Puts get f (.ok (other.get f)) (modify (take other f)) := by
  cases f
  all_goals
    refine Filling.puts_modify (fun _ => rfl) fun d g hne => ?_
    cases g <;> first | rfl | exact absurd rfl hne

/-- A value that was put into a field is held there in its stored form. -/
theorem get_set {d d' : Draft} {f : Field} {v : Value} (h : d.set f v = .ok d') :
    stored f v = .ok (d'.get f) :=
  ((puts_fill f v).of_after_ok (Filling.draft_eq_ok_iff.1 h)).1

/-- Putting a value into one field leaves the others alone. -/
theorem get_set_ne {d d' : Draft} {f g : Field} {v : Value} (h : d.set f v = .ok d')
    (hne : g ≠ f) : d'.get g = d.get g :=
  ((puts_fill f v).of_after_ok (Filling.draft_eq_ok_iff.1 h)).2 g hne

end Draft

end Bucket

end StorageMetadata
