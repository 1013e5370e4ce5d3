import StorageMetadata.Proofs.Object.Layout
import StorageMetadata.Proofs.Resource.Instant
import StorageMetadata.Proofs.Resource.Integer

/-!
# What becomes of a resource of an object

A resource that is read as an object and written again comes out in normal form: integers in decimal
and instants as timestamps in one spelling, entities spelled again, grants and owners with nothing
but what is read of them, and no key but those of the fields.  What holds nothing is left out,
except where it clears a field.  The normal form is read as the same object,

    (decode (.map es)).result = .ok o → o.encode = .ok (.map (normalForm es)),
    (decode (.map (normalForm es))).result = .ok o,

so reading and writing it again changes nothing.
-/

namespace StorageMetadata.Object

open StorageMetadata.Resource StorageMetadata.Value

/-- The entries of an object's resource in normal form. -/
def normalForm (es : List (String × Value)) : List (String × Value) :=
  keptEntry "bucket" es ++ keptEntry "name" es ++ keptEntry "id" es ++ keptEntry "selfLink" es ++
    keptEntry "mediaLink" es ++ keptEntry "etag" es ++ changedEntry "generation" decimalText es ++
    changedEntry "metageneration" decimalText es ++ changedEntry "size" decimalText es ++
    keptEntry "componentCount" es ++ changedEntry "timeDeleted" timestampText es ++
    changedEntry "updated" timestampText es ++
    slotEntry "owner" (Entity.normalOwner (valueAt? "owner" es)) ++
    changedEntry "acl" (mapList Grant.normal) es ++ keptEntry "metadata" es ++
    clearableKeys.flatMap fun (key, _) => slotEntry key (valueAt? key es)

theorem normalForm_eq (es : List (String × Value)) : normalForm es = layout.normal es := by
  simp [normalForm, layout, Layout.normal, Layout.entries, Field.all, Field.key, Field.codec,
    keptEntry, changedEntry, clearableKeys, Form.optional, Form.asIs, Form.integer, Form.instant,
    Form.list, Grant.form, metadataForm, Codec.required, Codec.clearable, Entity.within_normal]

/-- In normal form every integer is in decimal and every instant is a timestamp, whatever spelled them
before. -/
theorem respelled_normalForm {es : List (String × Value)} {o : Object}
    (read : (decode (.map es)).result = .ok o) :
    (∀ key ∈ ["generation", "metageneration", "size"],
      Respelled StandsFor Decimal.write key es (normalForm es)) ∧
    ∀ key ∈ ["timeDeleted", "updated"],
      Respelled NamesInstant Timestamp.write key es (normalForm es) := by
  have reads := decode_map_eq_ok_iff.1 read
  rw [normalForm_eq]
  have integer : ∀ f : Field, layout.codec f = (Form.integer f.key).optional →
      Respelled StandsFor Decimal.write f.key es (layout.normal es) :=
    fun f codec => Layout.respelled_normal (standsFor_of_decode f.key) codec reads
  have instant : ∀ f : Field, layout.codec f = (Form.instant f.key).optional →
      Respelled NamesInstant Timestamp.write f.key es (layout.normal es) :=
    fun f codec => Layout.respelled_normal (namesInstant_of_decode f.key) codec reads
  constructor
  · exact List.forall_mem_cons.2 ⟨integer .generation rfl, List.forall_mem_cons.2
      ⟨integer .metageneration rfl, List.forall_mem_singleton.2 (integer .size rfl)⟩⟩
  · exact List.forall_mem_cons.2 ⟨instant .deleteTime rfl,
      List.forall_mem_singleton.2 (instant .updateTime rfl)⟩

/-- **A resource that was read is written in normal form**, with no key but those of the fields, with
its integers in decimal and its instants as timestamps, and reading that gives the same object. -/
theorem encode_of_decode_object {es : List (String × Value)} {o : Object}
    (schema : ∀ f : Field, Optional f.Admits ((valueAt? f.key es).getD .null))
    (read : (decode (.map es)).result = .ok o)
    (deleted : ∀ n, o.deleteTime = .int n → Timestamp.InRange n)
    (updated : ∀ n, o.updateTime = .int n → Timestamp.InRange n) :
    o.encode = .ok (.map (normalForm es)) ∧ (∀ e ∈ normalForm es, ∃ f : Field, e.1 = f.key) ∧
      ((∀ key ∈ ["generation", "metageneration", "size"],
        Respelled StandsFor Decimal.write key es (normalForm es)) ∧
      ∀ key ∈ ["timeDeleted", "updated"],
        Respelled NamesInstant Timestamp.write key es (normalForm es)) ∧
      (decode (.map (normalForm es))).result = .ok o := by
  have admits : layout.Admits es := by
    intro f
    have h := schema f
    cases f <;> exact h
  have ranged : ∀ f, (layout.codec f).Ranged (o.toDraft.get f) := by
    intro f
    cases f with
    | deleteTime => exact deleted
    | updateTime => exact updated
    | _ => trivial
  have reads := decode_map_eq_ok_iff.1 read
  obtain ⟨-, writes⟩ := Layout.typed_and_writes_normal lawful_layout admits reads ranged
  have respelled := respelled_normalForm read
  rw [normalForm_eq] at respelled ⊢
  refine ⟨encode_of_writes writes, fun e he => ?_, respelled,
    decode_map_eq_ok_iff.2 (Layout.reads_normal lawful_layout admits reads ranged)⟩
  exact (layout.exists_of_mem_entries he).imp fun _ h => h.1

/-- A resource with keys of its own, nothing at some keys, and spellings that are not normal. -/
def received : List (String × Value) := [
  ("kind", "storage#object"), ("name", "q1.csv"), ("bucket", "reports"), ("id", .null),
  ("generation", .int 7), ("size", "+1_000 "), ("updated", "2023-11-14T23:13:20+01:00"),
  ("owner", .map [("entity", "user-allUsers"), ("entityId", "1")]),
  ("acl", .list [.map [("role", "OWNER"), ("entity", "project-OWNERS-12-3"), ("etag", .null)]]),
  ("contentType", .null), ("md5Hash", "XrY7u+Ae7tCTyyK7j1rNww==")
]

/-- The object that it is read as. -/
def receivedObject : Object where
  bucket := "reports"
  name := "q1.csv"
  generation := .int 7
  size := .int 1000
  updateTime := .int 1700000000000
  owner := .entity (.user "allUsers")
  acl := some [.grant ⟨.entity (.project .owners "12-3"), .owner⟩]
  contentType := .cleared
  md5 := "XrY7u+Ae7tCTyyK7j1rNww=="
  bucket_ne_null := Value.noConfusion
  name_ne_null := Value.noConfusion

theorem admits_received (f : Field) :
    Optional f.Admits ((valueAt? f.key received).getD .null) := by
  cases f with
  | bucket => exact Or.inr ⟨_, rfl⟩
  | name => exact Or.inr ⟨_, rfl⟩
  | generation => exact Or.inr (by decide : Decimal.Fits 7)
  | size => exact Or.inr trivial
  | updateTime => exact Or.inr ⟨_, rfl⟩
  | owner => exact Or.inr ⟨_, rfl, Or.inr ⟨_, rfl⟩⟩
  | acl =>
    refine Or.inr ⟨_, rfl, ?_⟩
    intro w hw
    rw [List.mem_singleton.1 hw]
    exact ⟨_, rfl, trivial⟩
  | md5 => exact Or.inr ⟨_, rfl⟩
  | _ => exact Or.inl rfl

/-- The normal form of a resource that was received, and the object that both are read as. -/
theorem encode_receivedObject :
    (∀ f : Field, Optional f.Admits ((valueAt? f.key received).getD .null)) ∧
      (decode (.map received)).result = .ok receivedObject ∧
      receivedObject.encode = .ok (.map (normalForm received)) ∧
      (∀ e ∈ normalForm received, ∃ f : Field, e.1 = f.key) ∧
      ((∀ key ∈ ["generation", "metageneration", "size"],
        Respelled StandsFor Decimal.write key received (normalForm received)) ∧
      ∀ key ∈ ["timeDeleted", "updated"],
        Respelled NamesInstant Timestamp.write key received (normalForm received)) ∧
      (decode (.map (normalForm received))).result = .ok receivedObject := by
  have deleted : ∀ n, receivedObject.deleteTime = .int n → Timestamp.InRange n := by
    intro n h
    cases h
  have updated : ∀ n, receivedObject.updateTime = .int n → Timestamp.InRange n := by
    intro n h
    cases h
    decide
  have stamp : (Value.text "2023-11-14T23:13:20+01:00").instant? = some 1700000000000 := by
    decide +kernel
  have read : (decode (.map received)).result = .ok receivedObject := by
    refine decode_map_eq_ok_iff.2 fun f => ?_
    cases f with
    | updateTime => exact optional_read_instant stamp "updated"
    | _ => rfl
  exact ⟨admits_received, read, encode_of_decode_object admits_received read deleted updated⟩

end StorageMetadata.Object
