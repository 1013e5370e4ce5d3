import StorageMetadata.Proofs.Object.Layout

/-!
# Objects are read back

An object whose fields hold values of their kinds can be written as a resource, and the resource is
read as the same object:

    ∃ r, o.encode = .ok r ∧ (decode r).result = .ok o.

In particular an unset field and a cleared one are kept apart, and so are a missing access list and
an empty one.  The kinds say no more than what is needed.  An integer has to have few enough digits
to be read, an instant has to have a timestamp, and an entity that is kept as it is spelled must not
be spelled like one of a known shape.
-/

namespace StorageMetadata.Object

open StorageMetadata.Resource StorageMetadata.Value

theorem Field.typed_of_kind {f : Field} {v : Value} (h : f.Kind v) : f.codec.Typed v := by
  cases f <;> exact h

/-- **An object is read back from the resource that it is written as.** -/
theorem decode_encode_self {o : Object} (h : ∀ f : Field, f.Kind (o.toDraft.get f)) :
    ∃ r, o.encode = .ok r ∧ (decode r).result = .ok o := by
  have typed : layout.Typed o.toDraft.get := fun f => Field.typed_of_kind (h f)
  obtain ⟨es, writes, reads⟩ := Layout.exists_writes_reads lawful_layout typed
  exact ⟨.map es, encode_of_writes writes, decode_map_eq_ok_iff.2 reads⟩

/-- An object with a value in fields of every kind. -/
def report : Object where
  bucket := "figures"
  name := "q2.csv"
  generation := .int 1360887697105000
  size := .int 0
  componentCount := .int (-1)
  deleteTime := .int (-62135596800000)
  updateTime := .int 1700000000123
  owner := .entity (.raw "robots")
  acl := some [.grant ⟨.entity (.user "allUsers"), .reader⟩,
    .grant ⟨.entity (.project .owners "12-3"), .owner⟩]
  metadata := .map []
  cacheControl := .cleared
  contentType := "text/csv"
  bucket_ne_null := Value.noConfusion
  name_ne_null := Value.noConfusion

theorem kind_report (f : Field) : f.Kind (report.toDraft.get f) := by
  cases f with
  | bucket => exact ⟨_, rfl⟩
  | name => exact ⟨_, rfl⟩
  | generation => exact Or.inr ⟨_, rfl, by decide⟩
  | size => exact Or.inr ⟨_, rfl, by decide⟩
  | componentCount => exact Or.inr ⟨_, rfl⟩
  | deleteTime => exact Or.inr ⟨_, rfl, by decide⟩
  | updateTime => exact Or.inr ⟨_, rfl, by decide⟩
  | owner => exact Or.inr ⟨.raw "robots", rfl, rfl⟩
  | acl =>
    refine Or.inr ⟨_, rfl, List.forall_mem_cons.2 ⟨⟨.user "allUsers", .reader, rfl, trivial⟩,
      List.forall_mem_cons.2 ⟨⟨.project .owners "12-3", .owner, rfl, trivial⟩, ?_⟩⟩⟩
    simp
  | metadata => exact Or.inr ⟨[], rfl, by simp [AreTexts]⟩
  | cacheControl => exact Or.inr (Or.inl rfl)
  | contentType => exact Or.inr (Or.inr ⟨_, rfl⟩)
  | _ => exact Or.inl rfl

/-- The kinds leave room for objects that use every kind of field. -/
theorem decode_encode_report :
    (∀ f : Field, f.Kind (report.toDraft.get f)) ∧
      ∃ r, report.encode = .ok r ∧ (decode r).result = .ok report :=
  ⟨kind_report, decode_encode_self kind_report⟩

end StorageMetadata.Object
