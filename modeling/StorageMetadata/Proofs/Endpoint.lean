import StorageMetadata.Endpoint
import StorageMetadata.Proofs.Result
import StorageMetadata.Proofs.Text.Percent

/-!
# An address names one resource

The address of a bucket or of an object is the service's and a path.  No part of the path holds a
slash, as the names are encoded, so the path is cut at its slashes into the parts that it was put
together from, and `resource?` reads the resource off it:

    resource? (bucketPath b) = some (b, none)   and   resource? (objectPath b n) = some (b, some n).

So different resources have different addresses.
-/

namespace StorageMetadata.Endpoint

open StorageMetadata.Text

variable {b b' n n' : String}

/-- The path of a bucket. -/
def bucketPath (bucket : String) : String := "/storage/v1/b/" ++ percentEncode bucket

/-- The path of an object. -/
def objectPath (bucket name : String) : String := bucketPath bucket ++ "/o/" ++ percentEncode name

/-- The bucket that a path names, and the object if it names one. -/
def resource? (path : String) : Option (String × Option String) :=
  match (splitAll '/' path.toList).map String.ofList with
  | "" :: "storage" :: "v1" :: "b" :: bucket :: rest => do
    let bucket ← percentDecode? bucket
    match rest with
    | [] => return (bucket, none)
    | ["o", name] => return (bucket, some (← percentDecode? name))
    | _ => none
  | _ => none

/-! ### The parts of a path -/

theorem slash_notMem (s : String) : '/' ∉ (percentEncode s).toList :=
  (isEncoded_percentEncode s).notMem (by decide)

/-- The parts of a path that starts as that of a bucket does. -/
theorem splitAll_bucketPath (b rest : String) :
    splitAll '/' (bucketPath b ++ rest).toList =
      [[], "storage".toList, "v1".toList, "b".toList] ++
        splitAll '/' ((percentEncode b).toList ++ rest.toList) := by
  have start : (bucketPath b ++ rest).toList = [] ++ '/' :: ("storage".toList ++ '/' ::
      ("v1".toList ++ '/' :: ("b".toList ++ '/' ::
        ((percentEncode b).toList ++ rest.toList)))) := by
    simp [bucketPath]
  rw [start, splitAll_append (by decide), splitAll_append (by decide), splitAll_append (by decide),
    splitAll_append (by decide)]
  rfl

/-- **The address of a bucket names it.** -/
theorem resource?_bucketPath (b : String) : resource? (bucketPath b) = some (b, none) := by
  have pieces := splitAll_bucketPath b ""
  rw [String.append_empty, String.toList_empty, List.append_nil,
    splitAll_of_notMem (slash_notMem b)] at pieces
  rw [resource?, pieces]
  simp [percentDecode?_percentEncode]

/-- **The address of an object names it and its bucket.** -/
theorem resource?_objectPath (b n : String) : resource? (objectPath b n) = some (b, some n) := by
  have pieces := splitAll_bucketPath b ("/o/" ++ percentEncode n)
  have name : ("/o/" ++ percentEncode n).toList =
      '/' :: ("o".toList ++ '/' :: (percentEncode n).toList) := by
    simp
  rw [name, splitAll_append (slash_notMem b), splitAll_append (by decide),
    splitAll_of_notMem (slash_notMem n), ← String.append_assoc] at pieces
  rw [resource?, objectPath, pieces]
  simp [percentDecode?_percentEncode]

/-! ### The addresses -/

section

variable {e : Endpoint} {host : String} (shown : e.host.shown = .ok host)
include shown

theorem bucketUrl_text (b : String) : e.bucketUrl (.text b) = .ok (host ++ bucketPath b) := by
  rw [bucketUrl, shown, bucketPath, ← String.append_assoc]
  rfl

theorem objectUrl_text (b n : String) :
    e.objectUrl (.text b) (.text n) = .ok (host ++ objectPath b n) := by
  rw [objectUrl, bucketUrl_text shown, objectPath, ← String.append_assoc, ← String.append_assoc]
  rfl

end

theorem path_eq_of_url_eq {host path path' : String}
    (same : (.ok (host ++ path) : Result String) = .ok (host ++ path')) : path = path' := by
  have texts := congrArg String.toList (Except.ok.inj same)
  rw [String.toList_append, String.toList_append] at texts
  exact String.toList_inj.1 (List.append_cancel_left texts)

/-- **An address names one resource.**  The address of a bucket is the service's with the encoded
name at its end, and that of an object goes on with its own.  What encodes a name is read back as
the name, and so no two buckets, no two objects, and no bucket and object have one address. -/
theorem address_names_one_resource {e : Endpoint} {host : String} (shown : e.host.shown = .ok host) :
    (∀ b, e.bucketUrl (.text b) = .ok (host ++ "/storage/v1/b/" ++ percentEncode b)) ∧
    (∀ b n, e.objectUrl (.text b) (.text n) =
      .ok (host ++ "/storage/v1/b/" ++ percentEncode b ++ "/o/" ++ percentEncode n)) ∧
    (∀ s, IsEncoded (percentEncode s).toList ∧ percentDecode? (percentEncode s) = some s) ∧
    (∀ b b', e.bucketUrl (.text b) = e.bucketUrl (.text b') → b = b') ∧
    (∀ b n b' n', e.objectUrl (.text b) (.text n) = e.objectUrl (.text b') (.text n') →
      b = b' ∧ n = n') ∧
    ∀ b b' n, e.bucketUrl (.text b) ≠ e.objectUrl (.text b') (.text n) := by
  refine ⟨?bucket, ?object, ?encoded, ?buckets, ?objects, ?apart⟩
  case bucket =>
    intro b
    rw [bucketUrl_text shown, bucketPath, String.append_assoc]
  case object =>
    intro b n
    rw [objectUrl_text shown, objectPath, bucketPath]
    simp only [String.append_assoc]
  case encoded =>
    intro s
    exact ⟨isEncoded_percentEncode s, percentDecode?_percentEncode s⟩
  case buckets =>
    intro b b' same
    rw [bucketUrl_text shown, bucketUrl_text shown] at same
    have read := resource?_bucketPath b
    rw [path_eq_of_url_eq same, resource?_bucketPath] at read
    cases read
    rfl
  case objects =>
    intro b n b' n' same
    rw [objectUrl_text shown, objectUrl_text shown] at same
    have read := resource?_objectPath b n
    rw [path_eq_of_url_eq same, resource?_objectPath] at read
    cases read
    exact ⟨rfl, rfl⟩
  case apart =>
    intro b b' n same
    rw [bucketUrl_text shown, objectUrl_text shown] at same
    have read := resource?_bucketPath b
    rw [path_eq_of_url_eq same, resource?_objectPath] at read
    cases read

/-- Names that are full of separators: the slashes of one do not make it the address of another. -/
theorem address_of_crooked_names :
    objectUrl {} (.text "a/o/b") (.text "50%?#é") =
        .ok "https://storage.googleapis.com/storage/v1/b/a%2Fo%2Fb/o/50%25%3F%23%C3%A9" ∧
      bucketUrl {} (.text "a/o/b") ≠ objectUrl {} (.text "a") (.text "b") := by
  have shown : ({} : Endpoint).host.shown = .ok defaultHost := rfl
  obtain ⟨-, object, -, -, -, apart⟩ := address_names_one_resource shown
  refine ⟨?_, apart "a/o/b" "a" "b"⟩
  rw [object, percentEncode_eq, percentEncode_eq]
  apply congrArg Except.ok
  decide

end StorageMetadata.Endpoint
