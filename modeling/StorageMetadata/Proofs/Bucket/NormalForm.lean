import StorageMetadata.Proofs.Bucket.Layout
import StorageMetadata.Proofs.Resource.Instant
import StorageMetadata.Proofs.Resource.Integer
import StorageMetadata.Proofs.Resource.NullFree

/-!
# What becomes of a resource of a bucket

A resource that is read as a bucket and written again comes out in normal form.  A section has
nothing but the entries that are read and is left out if it has none of them, which makes one of
the many ways to say that there is no section; a rule has the names of its methods in capitals; what
holds nothing is left out everywhere.  The normal form is read as the same bucket,

    (decode (.map es)).result = .ok b → b.encode = .ok (.map (normalForm es)),
    (decode (.map (normalForm es))).result = .ok b,

so reading and writing it again changes nothing.
-/

namespace StorageMetadata

open StorageMetadata.Resource StorageMetadata.Value

/-! ### What is written for a bucket is null-free -/

theorem Entity.nullFree_form : Entity.form.NullFree := by
  rintro _ w ⟨e, rfl, -⟩ hw
  cases (encode_map_text e).symm.trans hw
  exact .text _

theorem Grant.nullFree_form : Grant.form.NullFree := by
  rintro _ w ⟨e, role, rfl, -⟩ hw
  obtain ⟨spelling, hs, hw⟩ := Result.bind_eq_ok_iff.1 hw
  cases hw
  cases (Entity.encode_map_text e).symm.trans hs
  refine .map fun p hp => ?_
  rcases List.mem_pair.1 hp with rfl | rfl
  · exact .text _
  · exact .text _

theorem Method.nullFree_form : Method.form.NullFree := by
  rintro _ w ⟨m, rfl⟩ hw
  cases hw
  exact .text _

theorem Origin.nullFree_form : Origin.form.NullFree := by
  rintro _ w ⟨s, rfl⟩ hw
  cases hw
  exact .text _

theorem CorsRule.nullFree_codec : ∀ f : CorsRule.Field, f.codec.NullFree
  | .maxAge => Form.nullFree_optional Form.nullFree_number
  | .methods => Form.nullFree_optional (Form.nullFree_list Method.nullFree_form)
  | .origins => Form.nullFree_optional (Form.nullFree_list Origin.nullFree_form)
  | .responseHeaders => Form.nullFree_optional (Form.nullFree_list Form.nullFree_text)

theorem CorsRule.nullFree_form : CorsRule.form.NullFree := by
  rintro _ w ⟨r, rfl, typed⟩ hw
  obtain ⟨es, writes, -⟩ := Layout.exists_writes_reads lawful_layout typed
  cases (encode_of_writes writes).symm.trans hw
  exact Layout.nullFree_of_writes nullFree_codec typed writes

namespace Bucket

theorem nullFree_websiteCodec : websiteCodec.NullFree := by
  rintro _ w ⟨index, missing, rfl, hi, hm⟩ hw
  rcases hi with rfl | ⟨i, rfl⟩ <;> rcases hm with rfl | ⟨m, rfl⟩ <;> cases hw
  · exact .map (List.forall_mem_singleton.2 (.text m))
  · exact .map (List.forall_mem_singleton.2 (.text i))
  · refine .map fun p hp => ?_
    rcases List.mem_pair.1 hp with rfl | rfl
    · exact .text i
    · exact .text m

theorem nullFree_codec : ∀ k : Key, k.codec.NullFree
  | .name => Codec.nullFree_required _
  | .id | .selfLink | .etag | .location | .storageClass =>
    Form.nullFree_optional Form.nullFree_text
  | .owner => Form.nullFree_within Entity.nullFree_form _
  | .versioning => Form.nullFree_within Form.nullFree_flag _
  | .website => nullFree_websiteCodec
  | .timeCreated => Form.nullFree_optional (Form.nullFree_instant _)
  | .metageneration => Form.nullFree_optional (Form.nullFree_integer _)
  | .cors => Form.nullFree_optional (Form.nullFree_list CorsRule.nullFree_form)
  | .acl | .defaultObjectAcl => Form.nullFree_optional (Form.nullFree_list Grant.nullFree_form)

/-! ### The normal form -/

/-- The section for versions with nothing but whether old ones are kept. -/
def normalVersioning : Option Value → Option Value
  | some (.map es) => (held (valueAt? "enabled" es)).map fun v => .map [("enabled", v)]
  | _ => none

/-- The entries of a bucket's resource in normal form. -/
def normalForm (es : List (String × Value)) : List (String × Value) :=
  keptEntry "name" es ++ keptEntry "id" es ++ keptEntry "selfLink" es ++
    slotEntry "owner" (Entity.normalOwner (valueAt? "owner" es)) ++ keptEntry "etag" es ++
    keptEntry "location" es ++ keptEntry "storageClass" es ++
    slotEntry "versioning" (normalVersioning (valueAt? "versioning" es)) ++
    slotEntry "website" (normalWebsite (valueAt? "website" es)) ++
    changedEntry "timeCreated" timestampText es ++
    changedEntry "metageneration" decimalText es ++
    changedEntry "cors" (mapList CorsRule.normal) es ++
    changedEntry "acl" (mapList Grant.normal) es ++
    changedEntry "defaultObjectAcl" (mapList Grant.normal) es

theorem within_normalVersioning (s : Option Value) :
    ((Form.asIs IsFlag).within "enabled").normal s = normalVersioning s := by
  rcases s with _ | v
  · rfl
  · cases v with
    | map es => simp [normalVersioning, Form.within, Form.optional, Form.asIs]
    | _ => rfl

theorem normalForm_eq (es : List (String × Value)) : normalForm es = layout.normal es := by
  simp [normalForm, layout, Layout.normal, Layout.entries, Key.all, Key.text, Key.codec, keptEntry,
    changedEntry, Form.optional, Form.asIs, Form.integer, Form.instant, Form.list, Grant.form,
    CorsRule.form, websiteCodec, Codec.required, Entity.within_normal, ← within_normalVersioning]

/-- In normal form the generation is in decimal and the instant is a timestamp, whatever spelled them
before. -/
theorem respelled_normalForm {es : List (String × Value)} {b : Bucket}
    (read : (decode (.map es)).result = .ok b) :
    Respelled StandsFor Decimal.write "metageneration" es (normalForm es) ∧
      Respelled NamesInstant Timestamp.write "timeCreated" es (normalForm es) := by
  have reads := decode_map_eq_ok_iff.1 read
  rw [normalForm_eq]
  exact ⟨Layout.respelled_normal (i := Key.metageneration) (standsFor_of_decode _) rfl reads,
    Layout.respelled_normal (i := Key.timeCreated) (namesInstant_of_decode _) rfl reads⟩

/-- **A resource that was read is written in normal form**, with nothing inside that holds nothing,
with no key but those of the layout, with its generation in decimal and its instant as a timestamp,
and reading that gives the same bucket. -/
theorem encode_of_decode_bucket {es : List (String × Value)} {b : Bucket}
    (schema : ∀ k : Key, Optional k.Admits ((valueAt? k.text es).getD .null))
    (read : (decode (.map es)).result = .ok b)
    (created : ∀ n, b.createTime = .int n → Timestamp.InRange n) :
    b.encode = .ok (.map (normalForm es)) ∧ NullFree (.map (normalForm es)) ∧
      (∀ e ∈ normalForm es, ∃ k : Key, e.1 = k.text) ∧
      (Respelled StandsFor Decimal.write "metageneration" es (normalForm es) ∧
        Respelled NamesInstant Timestamp.write "timeCreated" es (normalForm es)) ∧
      (decode (.map (normalForm es))).result = .ok b := by
  have admits : layout.Admits es := by
    intro k
    have h := schema k
    cases k <;> exact h
  have ranged : ∀ k, (layout.codec k).Ranged (b.toDraft.part k) := by
    intro k
    cases k with
    | timeCreated => exact created
    | _ => trivial
  have reads := decode_map_eq_ok_iff.1 read
  obtain ⟨typed, writes⟩ := Layout.typed_and_writes_normal lawful_layout admits reads ranged
  have respelled := respelled_normalForm read
  rw [normalForm_eq] at respelled ⊢
  refine ⟨encode_of_writes writes, Layout.nullFree_of_writes nullFree_codec typed writes,
    fun e he => ?_, respelled,
    decode_map_eq_ok_iff.2 (Layout.reads_normal lawful_layout admits reads ranged)⟩
  exact (layout.exists_of_mem_entries he).imp fun _ h => h.1

/-- A resource with sections and rules that say nothing in several ways. -/
def received : List (String × Value) := [
  ("kind", "storage#bucket"), ("name", "backup"), ("etag", .null), ("metageneration", .int 4),
  ("timeCreated", "9999-12-31T23:59:59.999999Z"), ("owner", .map [("entityId", "1")]),
  ("versioning", .map [("enabled", .null)]),
  ("website", .map [("notFoundPage", "404.html"), ("mainPageSuffix", .null)]),
  ("cors", .list [.map [("origin", .list ["*"]), ("method", .list ["get", "Head"]),
    ("maxAgeSeconds", .null), ("id", "1")], .map []]),
  ("acl", .list []), ("defaultObjectAcl", .null)
]

/-- Its timestamp says more than milliseconds. -/
theorem instant?_received :
    (Value.text "9999-12-31T23:59:59.999999Z").instant? = some 253402300799999 := by
  decide +kernel

example : normalForm received = ([
    ("name", "backup"), ("website", .map [("notFoundPage", "404.html")]),
    ("timeCreated", "9999-12-31T23:59:59.999Z"), ("metageneration", "4"),
    ("cors", .list [.map [("method", .list ["GET", "HEAD"]), ("origin", .list ["*"])], .map []]),
    ("acl", .list [])] : List (String × Value)) := by
  have stamp : Timestamp.write 253402300799999 = "9999-12-31T23:59:59.999Z" := by decide +kernel
  have created : changedEntry "timeCreated" timestampText received =
      ([("timeCreated", "9999-12-31T23:59:59.999Z")] : List (String × Value)) := by
    show [("timeCreated", timestampText (.text "9999-12-31T23:59:59.999999Z"))] = _
    rw [timestampText, instant?_received]
    simp only [stamp]
  rw [normalForm, created]
  rfl

/-- The bucket that it is read as. -/
def receivedBucket : Bucket where
  name := "backup"
  notFoundPage := "404.html"
  createTime := .int 253402300799999
  metageneration := .int 4
  cors := some [
    .rule ⟨.null, some [.method .get, .method .head], some [.origin ⟨"*", true⟩], none⟩,
    .rule ⟨.null, none, none, none⟩]
  acl := some []
  name_ne_null := Value.noConfusion

theorem admits_received (k : Key) : Optional k.Admits ((valueAt? k.text received).getD .null) := by
  cases k with
  | name => exact Or.inr ⟨_, rfl⟩
  | owner => exact Or.inr ⟨_, rfl, Or.inl rfl⟩
  | versioning => exact Or.inr ⟨_, rfl, Or.inl rfl⟩
  | website => exact Or.inr ⟨_, rfl, Or.inl rfl, Or.inr ⟨_, rfl⟩⟩
  | timeCreated => exact Or.inr ⟨_, rfl⟩
  | metageneration => exact Or.inr (by decide : Decimal.Fits 4)
  | cors =>
    refine Or.inr ⟨_, rfl, List.forall_mem_cons.2 ⟨⟨_, rfl, ?_⟩,
      List.forall_mem_singleton.2 ⟨[], rfl, fun _ => Or.inl rfl⟩⟩⟩
    intro f
    cases f with
    | methods => exact Or.inr ⟨_, rfl, by simp [IsText]⟩
    | origins => exact Or.inr ⟨_, rfl, by simp [IsText]⟩
    | _ => exact Or.inl rfl
  | acl => exact Or.inr ⟨[], rfl, by simp⟩
  | _ => exact Or.inl rfl

/-- The normal form of a resource that was received, and the bucket that both are read as. -/
theorem encode_receivedBucket :
    (∀ k : Key, Optional k.Admits ((valueAt? k.text received).getD .null)) ∧
      (decode (.map received)).result = .ok receivedBucket ∧
      receivedBucket.encode = .ok (.map (normalForm received)) ∧
      NullFree (.map (normalForm received)) ∧
      (∀ e ∈ normalForm received, ∃ k : Key, e.1 = k.text) ∧
      (Respelled StandsFor Decimal.write "metageneration" received (normalForm received) ∧
        Respelled NamesInstant Timestamp.write "timeCreated" received (normalForm received)) ∧
      (decode (.map (normalForm received))).result = .ok receivedBucket := by
  have created : ∀ n, receivedBucket.createTime = .int n → Timestamp.InRange n := by
    intro n h
    cases h
    decide
  have read : (decode (.map received)).result = .ok receivedBucket := by
    refine decode_map_eq_ok_iff.2 fun k => ?_
    cases k with
    | timeCreated => exact optional_read_instant instant?_received "timeCreated"
    | _ => rfl
  exact ⟨admits_received, read, encode_of_decode_bucket admits_received read created⟩

end Bucket

end StorageMetadata
