import StorageMetadata.Proofs.Bucket.Comparison
import StorageMetadata.Proofs.Object.Comparison
import StorageMetadata.Proofs.Resource.Instant
import StorageMetadata.Proofs.Time.Range

/-!
# Writing what was read

An object or a bucket that was read from a resource is equal to itself, can be written, and is read
back from what was written, if every instant in it has a timestamp.  An instant that was read may
have none, since its offset may have carried it out of the years 1 to 9999, though by no more than a
day.  Then the record can be neither written nor compared, and the failure names the first of its
instants that is out of range.

`Recodes` says so of a record and its instants.
-/

namespace StorageMetadata

open StorageMetadata.Resource StorageMetadata.Value

/-! ### Instants that were read -/

namespace Resource

/-- Is the value an instant that is in range but for an offset? -/
def IsNearInstant (v : Value) : Prop := ∃ n, v = .int n ∧ Timestamp.NearRange n

/-- Is the value an instant that no timestamp names? -/
def isOutside : Value → Bool
  | .int n => !decide (Timestamp.InRange n)
  | _ => false

/-- The failure to write a timestamp for the value of a field. -/
def outOfRange (key : String) (v : Value) : Failure Value :=
  .wireFormat .timestampRange key v (some .outOfRange)

theorem exists_text_of_readInstant {key : String} {w : Value} {n : Int}
    (h : readInstant key w = .ok n) : ∃ s, w = .text s ∧ Timestamp.read? s = some n := by
  unfold readInstant at h
  split at h
  next s =>
    split at h
    next hs =>
      cases h
      exact ⟨s, rfl, hs⟩
    next => cases h
  next => cases h

/-- An instant that was read is in range but for an offset. -/
theorem near_of_instant_read {key : String} {s : Option Value} {v : Value}
    (h : (Form.instant key).optional.read s = .ok v) : Optional IsNearInstant v := by
  simp only [Form.optional, Form.instant] at h
  split at h
  next =>
    cases h
    exact Or.inl rfl
  next =>
    obtain ⟨n, hn, rfl⟩ := Result.map_eq_ok_iff.1 h
    obtain ⟨s, -, hs⟩ := exists_text_of_readInstant hn
    exact Or.inr ⟨n, rfl, Timestamp.nearRange_of_read? hs⟩

theorem inRange_of_not_outside {v : Value} (h : ¬isOutside v) (n : Int) (hv : v = .int n) :
    Timestamp.InRange n := by
  subst hv
  simpa [isOutside] using h

theorem instantValue_of_outside (key : String) {v : Value} (h : isOutside v) :
    instantValue key v = .error (outOfRange key v) := by
  cases v with
  | int n =>
    have out : ¬Timestamp.InRange n := by simpa [isOutside] using h
    have some : Value.int n ≠ .null := Value.noConfusion
    rw [instantValue, if_neg some, writeInstant_int, if_neg out]
    rfl
  | _ => cases h

theorem exists_instantValue (key : String) {v : Value} (near : Optional IsNearInstant v)
    (h : ¬isOutside v) : ∃ w, instantValue key v = .ok w := by
  rcases near with rfl | ⟨n, rfl, -⟩
  · exact ⟨.null, rfl⟩
  · have some : Value.int n ≠ .null := Value.noConfusion
    refine ⟨.text (Timestamp.write n), ?_⟩
    rw [instantValue, if_neg some, writeInstant_int, if_pos (inRange_of_not_outside h n rfl)]
    rfl

theorem exists_integerValue {v : Value} (h : Optional IsFitting v) :
    ∃ w, integerValue v = .ok w := by
  rcases h with rfl | ⟨n, rfl, -⟩
  · exact ⟨.null, rfl⟩
  · exact ⟨.text (Decimal.write n), rfl⟩

/-- Is the record, which was read, written and equal to itself and read back from what was written,
unless one of its instants is out of range, and does the first of those tell how writing and
comparing it fail? -/
def Recodes {ρ : Type} (encode : ρ → Result Value) (same : ρ → ρ → Result Bool)
    (decode : Value → Traced ρ) (instants : List (String × Value)) (x : ρ) : Prop :=
  (∀ e ∈ instants, Optional IsNearInstant e.2) ∧
    match instants.find? fun e => isOutside e.2 with
    | none => ∃ w, encode x = .ok w ∧ same x x = .ok true ∧ (decode w).result = .ok x
    | some (key, v) =>
      encode x = .error (outOfRange key v) ∧ same x x = .error (outOfRange key v)

end Resource

/-! ### Objects -/

namespace Object

/-- The instants of an object at their keys, in the order in which they are written. -/
def instants (o : Object) : List (String × Value) :=
  [("timeDeleted", o.deleteTime), ("updated", o.updateTime)]

/-- The user's texts are kept as they are in the resource. -/
theorem metadata_of_read {s : Option Value} {v : Value} {texts : List (String × Value)}
    (admits : metadataForm.optional.AdmitsAt s) (h : metadataForm.optional.read s = .ok v)
    (kept : v = .map texts) : s = some (.map texts) := by
  subst kept
  simp only [Form.optional] at h
  split at h
  next => cases h
  next some =>
    obtain ⟨es, hes, -⟩ := admits.resolve_left some
    rw [hes] at h
    cases h
    exact eq_some_of_getD hes some

/-- An object fails to be written at the first of its instants that is out of range. -/
theorem encode_eq_error {o : Object} (generation : Optional IsFitting o.generation)
    (metageneration : Optional IsFitting o.metageneration) (size : Optional IsFitting o.size)
    (deleted : Optional IsNearInstant o.deleteTime) {key : String} {v : Value}
    (first : o.instants.find? (fun e => isOutside e.2) = some (key, v)) :
    o.encode = .error (outOfRange key v) := by
  obtain ⟨g, hg⟩ := exists_integerValue generation
  obtain ⟨m, hm⟩ := exists_integerValue metageneration
  obtain ⟨s, hs⟩ := exists_integerValue size
  unfold encode
  rw [hg, hm, hs]
  by_cases out : isOutside o.deleteTime
  · simp only [instants, List.find?_cons, out] at first
    cases first
    rw [instantValue_of_outside _ out]
    rfl
  · obtain ⟨d, hd⟩ := exists_instantValue "timeDeleted" deleted out
    by_cases out' : isOutside o.updateTime
    · simp only [instants, List.find?_cons, out, out'] at first
      cases first
      rw [hd, instantValue_of_outside _ out']
      rfl
    · simp [instants, out, out'] at first

theorem recodes {es : List (String × Value)} {o : Object}
    (schema : ∀ f : Field, Optional f.Admits ((valueAt? f.key es).getD .null))
    (dictionary : ∀ texts, valueAt? "metadata" es = some (.map texts) →
      (texts.map Prod.fst).Nodup)
    (read : (decode (.map es)).result = .ok o) : Recodes encode same decode o.instants o := by
  have admits : layout.Admits es := by
    intro f
    have h := schema f
    cases f <;> exact h
  have reads := decode_map_eq_ok_iff.1 read
  have deleted := near_of_instant_read (reads .deleteTime)
  have updated := near_of_instant_read (reads .updateTime)
  refine ⟨List.forall_mem_cons.2 ⟨deleted, List.forall_mem_singleton.2 updated⟩, ?_⟩
  split
  next inside =>
    have inside := List.find?_eq_none.1 inside
    have ranged : ∀ f, (layout.codec f).Ranged (o.toDraft.get f) := by
      intro f
      cases f with
      | deleteTime => exact inRange_of_not_outside (inside _ List.mem_cons_self)
      | updateTime =>
        exact inRange_of_not_outside (inside _ (List.mem_cons_of_mem _ List.mem_cons_self))
      | _ => trivial
    obtain ⟨typed, writes⟩ := Layout.typed_and_writes_normal lawful_layout admits reads ranged
    refine ⟨_, encode_of_writes writes, isEquality_same.refl o (declared_of_typed typed ?_),
      decode_map_eq_ok_iff.2 (Layout.reads_normal lawful_layout admits reads ranged)⟩
    intro texts kept
    exact dictionary texts (metadata_of_read (admits .metadata) (reads .metadata) kept)
  next key v first =>
    -- All of the integers can be written, whatever becomes of the instants.
    have integer : ∀ f, (layout.codec f).Ranged (o.toDraft.get f) →
        (layout.codec f).Typed (o.toDraft.get f) :=
      fun f ranged => ((lawful_layout f).write_read _ _ (admits f) (reads f) ranged).1
    have failed := encode_eq_error (integer .generation trivial) (integer .metageneration trivial)
      (integer .size trivial) deleted first
    refine ⟨failed, ?_⟩
    rw [same, failed]
    rfl

end Object

/-! ### Buckets -/

namespace Bucket

/-- The only instant of a bucket at its key. -/
def instants (b : Bucket) : List (String × Value) := [("timeCreated", b.createTime)]

/-- A bucket fails to be written at its instant if that is out of range. -/
theorem encode_eq_error {b : Bucket} (owner : Optional IsEntity b.owner) {key : String} {v : Value}
    (first : b.instants.find? (fun e => isOutside e.2) = some (key, v)) :
    b.encode = .error (outOfRange key v) := by
  obtain ⟨o, ho⟩ : ∃ o, Entity.encodeOwner b.owner = .ok o := by
    rcases owner with h | ⟨e, he, -⟩
    · exact ⟨.null, if_pos h⟩
    · rw [he]
      exact ⟨_, Result.bind_eq_ok_iff.2 ⟨_, Entity.encode_map_text e, rfl⟩⟩
  unfold encode
  rw [ho]
  by_cases out : isOutside b.createTime
  · simp only [instants, List.find?_cons, out] at first
    cases first
    rw [instantValue_of_outside _ out]
    rfl
  · simp [instants, out] at first

theorem recodes {es : List (String × Value)} {b : Bucket}
    (schema : ∀ k : Key, Optional k.Admits ((valueAt? k.text es).getD .null))
    (read : (decode (.map es)).result = .ok b) : Recodes encode same decode b.instants b := by
  have admits : layout.Admits es := by
    intro k
    have h := schema k
    cases k <;> exact h
  have reads := decode_map_eq_ok_iff.1 read
  have created := near_of_instant_read (reads .timeCreated)
  refine ⟨List.forall_mem_singleton.2 created, ?_⟩
  split
  next inside =>
    have inside := List.find?_eq_none.1 inside
    have ranged : ∀ k, (layout.codec k).Ranged (b.toDraft.part k) := by
      intro k
      cases k with
      | timeCreated => exact inRange_of_not_outside (inside _ List.mem_cons_self)
      | _ => trivial
    obtain ⟨typed, writes⟩ := Layout.typed_and_writes_normal lawful_layout admits reads ranged
    exact ⟨_, encode_of_writes writes, isEquality_same.refl b (declared_of_typed typed),
      decode_map_eq_ok_iff.2 (Layout.reads_normal lawful_layout admits reads ranged)⟩
  next key v first =>
    have owner := (lawful_layout .owner).write_read _ _ (admits .owner) (reads .owner) trivial
    have failed := encode_eq_error owner.1 first
    refine ⟨failed, ?_⟩
    rw [same, failed]
    rfl

end Bucket

/-! ### Both kinds of records -/

/-- **Every object and every bucket that was read is written, is equal to itself and is read back
from what was written, unless one of its instants is out of range**, and no instant is out of range
by more than a day. -/
theorem recodes_of_decode (es : List (String × Value)) :
    (∀ o : Object,
      (∀ f : Object.Field, Optional f.Admits ((valueAt? f.key es).getD .null)) →
      (∀ texts, valueAt? "metadata" es = some (.map texts) → (texts.map Prod.fst).Nodup) →
      (Object.decode (.map es)).result = .ok o →
        Recodes Object.encode Object.same Object.decode o.instants o) ∧
    ∀ b : Bucket,
      (∀ k : Bucket.Key, Optional k.Admits ((valueAt? k.text es).getD .null)) →
      (Bucket.decode (.map es)).result = .ok b →
        Recodes Bucket.encode Bucket.same Bucket.decode b.instants b :=
  ⟨fun _ schema dictionary read => Object.recodes schema dictionary read,
    fun _ schema read => Bucket.recodes schema read⟩

/-- A resource of an object that was deleted in the first instant that has a timestamp. -/
def dawn : List (String × Value) := [
  ("bucket", "calendar"), ("name", "dawn.txt"), ("size", "12"),
  ("timeDeleted", "0001-01-01T01:00:00+01:00"),
  ("metadata", .map [("zone", "east"), ("day", "first")])
]

/-- The object that it is read as. -/
def dawnObject : Object where
  bucket := "calendar"
  name := "dawn.txt"
  size := .int 12
  deleteTime := .int (-62135596800000)
  metadata := .map [("zone", "east"), ("day", "first")]
  bucket_ne_null := Value.noConfusion
  name_ne_null := Value.noConfusion

/-- A resource of a bucket that was made after the last instant that has a timestamp. -/
def dusk : List (String × Value) :=
  [("name", "calendar"), ("timeCreated", "9999-12-31T23:59:59.999-23:59")]

/-- The bucket that it is read as. -/
def duskBucket : Bucket where
  name := "calendar"
  createTime := .int 253402387139999
  name_ne_null := Value.noConfusion

theorem admits_dawn (f : Object.Field) : Optional f.Admits ((valueAt? f.key dawn).getD .null) := by
  cases f with
  | bucket | name | deleteTime => exact Or.inr ⟨_, rfl⟩
  | size => exact Or.inr trivial
  | metadata =>
    refine Or.inr ⟨_, rfl, ?_⟩
    simp [AreTexts, IsText]
  | _ => exact Or.inl rfl

theorem admits_dusk (k : Bucket.Key) : Optional k.Admits ((valueAt? k.text dusk).getD .null) := by
  cases k with
  | name | timeCreated => exact Or.inr ⟨_, rfl⟩
  | _ => exact Or.inl rfl

/-- There are records that were read with instants on both sides of each border. -/
theorem recodes_dawn_and_dusk :
    ((∀ f : Object.Field, Optional f.Admits ((valueAt? f.key dawn).getD .null)) ∧
      (∀ texts, valueAt? "metadata" dawn = some (.map texts) → (texts.map Prod.fst).Nodup) ∧
      (Object.decode (.map dawn)).result = .ok dawnObject ∧
      ∃ w, dawnObject.encode = .ok w ∧ dawnObject.same dawnObject = .ok true ∧
        (Object.decode w).result = .ok dawnObject) ∧
    (∀ k : Bucket.Key, Optional k.Admits ((valueAt? k.text dusk).getD .null)) ∧
      (Bucket.decode (.map dusk)).result = .ok duskBucket ∧
      duskBucket.encode = .error (outOfRange "timeCreated" (.int 253402387139999)) ∧
      duskBucket.same duskBucket = .error (outOfRange "timeCreated" (.int 253402387139999)) := by
  have dictionary : ∀ texts, valueAt? "metadata" dawn = some (.map texts) →
      (texts.map Prod.fst).Nodup := by
    intro texts h
    cases h
    decide
  have read : (Object.decode (.map dawn)).result = .ok dawnObject := by
    refine Object.decode_map_eq_ok_iff.2 fun f => ?_
    cases f with
    | deleteTime => exact optional_read_instant (by decide +kernel) "timeDeleted"
    | _ => rfl
  have read' : (Bucket.decode (.map dusk)).result = .ok duskBucket := by
    refine Bucket.decode_map_eq_ok_iff.2 fun k => ?_
    cases k with
    | timeCreated => exact optional_read_instant (by decide +kernel) "timeCreated"
    | _ => rfl
  exact ⟨⟨admits_dawn, dictionary, read,
    ((recodes_of_decode dawn).1 dawnObject admits_dawn dictionary read).2⟩,
    admits_dusk, read', ((recodes_of_decode dusk).2 duskBucket admits_dusk read').2⟩

/-- A resource of an object that was changed at the beginning of the year 1, an hour ahead of
universal time and so before the first instant that has a timestamp. -/
def early : List (String × Value) :=
  [("bucket", "b"), ("name", "n"), ("updated", "0001-01-01T00:00:00+01:00")]

/-- The object that it is read as. -/
def earlyObject : Object where
  bucket := "b"
  name := "n"
  updateTime := .int (-62135600400000)
  bucket_ne_null := Value.noConfusion
  name_ne_null := Value.noConfusion

theorem decode_early : (Object.decode (.map early)).result = .ok earlyObject := by
  refine Object.decode_map_eq_ok_iff.2 fun f => ?_
  cases f with
  | updateTime => exact optional_read_instant (by decide +kernel) "updated"
  | _ => rfl

/-- **Not every object that was read can be written or compared.** -/
theorem not_recodable_early :
    (∀ f : Object.Field, Optional f.Admits ((valueAt? f.key early).getD .null)) ∧
      (∀ texts, valueAt? "metadata" early = some (.map texts) → (texts.map Prod.fst).Nodup) ∧
      (Object.decode (.map early)).result = .ok earlyObject ∧
      (¬∃ w, earlyObject.encode = .ok w) ∧ earlyObject.same earlyObject ≠ .ok true := by
  have written : earlyObject.encode = .error (outOfRange "updated" (.int (-62135600400000))) := rfl
  have compared : earlyObject.same earlyObject =
      .error (outOfRange "updated" (.int (-62135600400000))) := rfl
  refine ⟨fun f => ?_, ?_, decode_early, ?_, ?_⟩
  · cases f with
    | bucket | name | updateTime => exact Or.inr ⟨_, rfl⟩
    | _ => exact Or.inl rfl
  · intro texts h
    cases h
  · rw [written]
    rintro ⟨w, h⟩
    cases h
  · rw [compared]
    intro h
    cases h

end StorageMetadata
