import StorageMetadata.Access.Resource
import StorageMetadata.Object.Draft
import StorageMetadata.Resource.Instant
import StorageMetadata.Resource.Integer

/-!
# Objects as resources

`Object.encode` writes an object as a resource, one entry for each field that holds something, and
`Object.decode` reads a resource, whatever other entries it has.  Integers are texts, instants are
timestamps, the owner is a map with one entity, the access list a list of grants; the seven fields
with three states keep them apart as a missing entry, an entry with nothing in it, and a value.
-/

namespace StorageMetadata.Object

open StorageMetadata.Resource

/-- The keys of the fields with three states. -/
def clearableKeys : List (String × Field) := [
  ("cacheControl", .cacheControl), ("contentType", .contentType),
  ("contentEncoding", .contentEncoding), ("contentDisposition", .contentDisposition),
  ("contentLanguage", .contentLanguage), ("md5Hash", .md5), ("crc32c", .crc32c)
]

/-- An object as a resource. -/
def encode (o : Object) : Result Value := do
  let generation ← integerValue o.generation
  let metageneration ← integerValue o.metageneration
  let size ← integerValue o.size
  let deleted ← instantValue "timeDeleted" o.deleteTime
  let updated ← instantValue "updated" o.updateTime
  let owner ← Entity.encodeOwner o.owner
  let acl ← Grant.encodeAll o.acl
  return .map (entry "bucket" o.bucket ++ entry "name" o.name ++ entry "id" o.id ++
    entry "selfLink" o.selfLink ++ entry "mediaLink" o.mediaLink ++ entry "etag" o.etag ++
    entry "generation" generation ++ entry "metageneration" metageneration ++
    entry "size" size ++ entry "componentCount" o.componentCount ++
    entry "timeDeleted" deleted ++ entry "updated" updated ++ entry "owner" owner ++
    entry "acl" acl ++ entry "metadata" o.metadata ++
    clearableKeys.flatMap fun (key, f) => clearableEntry key (o.toDraft.get f))

/-- The object that a resource stands for. -/
def decode (resource : Value) : Traced Object := do
  let bucket ← readRequired "bucket" resource
  let name ← readRequired "name" resource
  let id ← resource.field "id"
  let selfLink ← resource.field "selfLink"
  let mediaLink ← resource.field "mediaLink"
  let etag ← resource.field "etag"
  let componentCount ← resource.field "componentCount"
  let generation ← integerField "generation" resource
  let metageneration ← integerField "metageneration" resource
  let metadata ← mapValue (← resource.field "metadata")
  let deleteTime ← instantField "timeDeleted" resource
  let updateTime ← instantField "updated" resource
  let size ← integerField "size" resource
  let owner ← Entity.decodeOwner resource
  let acl ← Grant.decodeAll "acl" resource
  let cacheControl ← readClearable "cacheControl" resource
  let contentType ← readClearable "contentType" resource
  let contentEncoding ← readClearable "contentEncoding" resource
  let contentDisposition ← readClearable "contentDisposition" resource
  let contentLanguage ← readClearable "contentLanguage" resource
  let md5 ← readClearable "md5Hash" resource
  let crc32c ← readClearable "crc32c" resource
  let draft : Draft := {
    bucket, name, id, selfLink, mediaLink, etag, generation, metageneration, size, componentCount
    deleteTime, updateTime, owner, acl, metadata, cacheControl, contentType, contentEncoding
    contentDisposition, contentLanguage, md5, crc32c }
  let o ← draft.build
  Traced.remark (.decodedObject o.bucket o.name)
  return o

/-! ### Comparing and showing objects -/

/-- Two objects are equal if their resources are; an object that cannot be written cannot be
compared. -/
def same (a b : Object) : Result Bool := do
  (← a.encode).same (← b.encode)

/-- The fingerprint of an object is that of its bucket and its name. -/
def fingerprint? (o : Object) : Option Fingerprint := do
  return .parts [← o.bucket.fingerprint?, ← o.name.fingerprint?]

/-- The literal of an object shows five of its fields. -/
def literal (o : Object) : String :=
  "BlobInfo(bucket=" ++ o.bucket.literal ++ ", name=" ++ o.name.literal ++
    ", size=" ++ o.size.literal ++ ", content_type=" ++ (o.view .contentType).literal ++
    ", metadata=" ++ o.metadata.literal ++ ")"

/-- An object as it is seen from outside, told from others by a label. -/
def record (label : Nat) (o : Object) : Record Value where
  kind := .object
  label
  literal := o.literal
  fingerprint? := o.fingerprint?
  resource := o.encode

end StorageMetadata.Object
