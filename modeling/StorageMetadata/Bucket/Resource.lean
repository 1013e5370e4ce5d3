import StorageMetadata.Bucket.Draft
import StorageMetadata.Access.Resource
import StorageMetadata.Resource.Instant
import StorageMetadata.Resource.Integer

/-!
# Buckets as resources

`Bucket.encode` writes a bucket as a resource and `Bucket.decode` reads one.  Three fields are
kept a level deeper: whether old versions are kept is the one entry of a section, and the two
pages of the website share a section that is there if at least one page is.  Every other field is
one entry.
-/

namespace StorageMetadata.Bucket

open StorageMetadata.Resource

/-- A map of the entries, or nothing if there are none. -/
def sectionOf (entries : List (String × Value)) : Value :=
  if entries.isEmpty then .null else .map entries

/-- The rules in a resource; each item has to be something that a resource can hold. -/
def encodeRules (rules : Option (List Value)) : Result Value :=
  match rules with
  | none => .ok .null
  | some rules => (rules.mapM Value.encode).map .list

/-- A bucket as a resource. -/
def encode (b : Bucket) : Result Value := do
  let owner ← Entity.encodeOwner b.owner
  let created ← instantValue "timeCreated" b.createTime
  let metageneration ← integerValue b.metageneration
  let cors ← encodeRules b.cors
  let acl ← Grant.encodeAll b.acl
  let defaultAcl ← Grant.encodeAll b.defaultAcl
  return .map (entry "name" b.name ++ entry "id" b.id ++ entry "selfLink" b.selfLink ++
    entry "owner" owner ++ entry "etag" b.etag ++ entry "location" b.location ++
    entry "storageClass" b.storageClass ++
    entry "versioning" (sectionOf (entry "enabled" b.versioningEnabled)) ++
    entry "website" (sectionOf
      (entry "mainPageSuffix" b.indexPage ++ entry "notFoundPage" b.notFoundPage)) ++
    entry "timeCreated" created ++
    entry "metageneration" metageneration ++ entry "cors" cors ++
    entry "acl" acl ++ entry "defaultObjectAcl" defaultAcl)

/-- The value at a key of a section; a section that holds nothing has no entries. -/
def sectionField (key inner : String) (resource : Value) : Result Value := do
  let s ← resource.field key
  if s = .null then return .null
  s.field inner

/-- The rules that a resource holds, if it holds any. -/
def decodeRules (resource : Value) : Traced (Option (List Value)) := do
  match ← sequence? (← resource.field "cors") with
  | none => return none
  | some items => return some (← items.mapM fun v => do return .rule (← CorsRule.decode v))

/-- The bucket that a resource stands for. -/
def decode (resource : Value) : Traced Bucket := do
  let name ← readRequired "name" resource
  let id ← resource.field "id"
  let selfLink ← resource.field "selfLink"
  let etag ← resource.field "etag"
  let location ← resource.field "location"
  let storageClass ← resource.field "storageClass"
  let owner ← Entity.decodeOwner resource
  let versioningEnabled ← sectionField "versioning" "enabled" resource
  let indexPage ← sectionField "website" "mainPageSuffix" resource
  let notFoundPage ← sectionField "website" "notFoundPage" resource
  let createTime ← instantField "timeCreated" resource
  let metageneration ← integerField "metageneration" resource
  let cors ← decodeRules resource
  let acl ← Grant.decodeAll "acl" resource
  let defaultAcl ← Grant.decodeAll "defaultObjectAcl" resource
  let draft : Draft := {
    name, id, selfLink, owner, etag, location, storageClass, versioningEnabled, indexPage
    notFoundPage, createTime, metageneration, cors, acl, defaultAcl }
  let b ← draft.build
  Traced.remark (.decodedBucket b.name)
  return b

/-! ### Comparing and showing buckets -/

/-- Two buckets are equal if their resources are; a bucket that cannot be written cannot be
compared. -/
def same (a b : Bucket) : Result Bool := do
  (← a.encode).same (← b.encode)

/-- The fingerprint of a bucket is that of its name. -/
def fingerprint? (b : Bucket) : Option Fingerprint := b.name.fingerprint?

/-- The literal of a field of a bucket. -/
def fieldLiteral (b : Bucket) : Field → String
  | .cors => Value.sequence b.cors
  | .acl => Value.sequence b.acl
  | .defaultAcl => Value.sequence b.defaultAcl
  | f => (b.toDraft.get f).literal

/-- The literal of a bucket shows all of its fields. -/
def literal (b : Bucket) : String :=
  "BucketInfo(" ++
    Value.commaSeparated (Field.all.map fun f => f.label ++ "=" ++ b.fieldLiteral f) ++ ")"

/-- A bucket as it is seen from outside, told from others by a label. -/
def record (label : Nat) (b : Bucket) : Record Value where
  kind := .bucket b.name
  label
  literal := b.literal
  fingerprint? := b.fingerprint?
  resource := b.encode

end StorageMetadata.Bucket
