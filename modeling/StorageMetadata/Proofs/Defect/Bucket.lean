import StorageMetadata.Proofs.Bucket.Failure
import StorageMetadata.Proofs.Defect.Part

/-!
# Which buckets are refused, and for what

`Bucket.defects` lists what is wrong with the resource of a bucket: the name that is missing, an
instant or an integer that is none, the unknown methods of its rules, and what its two access lists
lack.  A rule is wrong only in the methods that it names.  As for objects, the first thing on the list
is what a resource of the right shape is refused for:

    (decode (.map es)).result = .error f ↔ (defects es).head? = some f.
-/

namespace StorageMetadata

open StorageMetadata.Resource StorageMetadata.Value StorageMetadata.Result

/-! ### Methods and origins -/

namespace Method

/-- A text that is the name of no method, whatever its letter case. -/
def unknown : Value → List (Failure Value)
  | .text s =>
    if Text.upper s ∈ all.map name then [] else [.unknownMethod (.text s) (some .unknownName)]
  | _ => []

theorem isSome_ofName?_iff (s : String) : (ofName? s).isSome ↔ Text.upper s ∈ all.map name := by
  rw [ofName?, List.find?_isSome, List.mem_map]
  simp only [decide_eq_true_eq]

theorem failure?_form {v : Value} (text : v.IsText) :
    failure? (form.decode v) = (unknown v).head? := by
  obtain ⟨s, rfl⟩ := text
  refine (failure?_map _ _).trans ?_
  simp only [read, unknown, ← isSome_ofName?_iff]
  cases h : ofName? s with
  | none => simp [failure?]
  | some m => simp [failure?]

theorem accounted_unknown (v : Value) : ∀ f ∈ unknown v, f.isAccountedFor := by
  unfold unknown
  split
  next => split <;> simp [Failure.isAccountedFor]
  next => simp

end Method

theorem Origin.failure?_form {v : Value} (text : v.IsText) : failure? (form.decode v) = none := by
  obtain ⟨s, rfl⟩ := text
  rfl

/-- Items without defects make a list without defects. -/
theorem Resource.itemDefects_nil (s : Option Value) : itemDefects (fun _ => []) s = [] := by
  unfold itemDefects
  split
  next items => exact List.flatMap_eq_nil_iff.2 fun _ _ => rfl
  next => rfl

/-! ### Rules -/

namespace CorsRule

/-- The values that a rule may have at the key of a field, besides nothing, whether or not they can be
read. -/
def Field.Shape : Field → Value → Prop
  | .maxAge => fun _ => True
  | .methods | .origins | .responseHeaders => IsListOf IsText

/-- Have the lists of a rule the shape that is asked for? -/
def Shaped (es : List (String × Value)) : Prop :=
  ∀ f : Field, Optional f.Shape ((valueAt? f.key es).getD .null)

/-- What is wrong with a rule: the methods that are unknown. -/
def defects : Value → List (Failure Value)
  | .map es => itemDefects Method.unknown (valueAt? "method" es)
  | _ => []

/-- What is wrong with what is at the key of a field. -/
def Field.defects : Field → Option Value → List (Failure Value)
  | .methods => itemDefects Method.unknown
  | _ => fun _ => []

theorem Field.failure?_read (f : Field) {s : Option Value} (shaped : Optional f.Shape (s.getD .null)) :
    failure? (f.codec.read s) = (f.defects s).head? := by
  cases f with
  | maxAge => exact congrArg failure? (asIs_optional_read IsInteger s)
  | methods => exact failure?_list _ (fun _ => Method.failure?_form) shaped
  | origins =>
    have read := failure?_list (fun _ => []) (fun _ => Origin.failure?_form) shaped
    rwa [itemDefects_nil] at read
  | responseHeaders =>
    have read := failure?_list (F := Form.asIs IsText) (fun _ => []) (fun _ _ => rfl) shaped
    rwa [itemDefects_nil] at read

theorem failure?_form {v : Value} (shaped : IsMapOf Shaped v) :
    failure? (form.decode v) = (defects v).head? := by
  obtain ⟨es, rfl, shape⟩ := shaped
  have listed : (Field.all.flatMap fun f => f.defects (valueAt? f.key es)) = defects (.map es) := by
    simp [Field.all, Field.defects, Field.key, defects]
  refine (failure?_map _ _).trans ?_
  rw [failure?_decode, ← listed, List.head?_flatMap]
  exact congrArg (Field.all.findSome? ·) (funext fun f => f.failure?_read (shape f))

theorem accounted_defects (v : Value) : ∀ f ∈ defects v, f.isAccountedFor := by
  unfold defects
  split
  next es => exact accounted_itemDefects Method.accounted_unknown _
  next => simp

end CorsRule

/-! ### Buckets -/

namespace Bucket

/-- The values that a resource may have at a key, besides nothing, whether or not they can be read. -/
def Key.Shape : Key → Value → Prop
  | .owner | .versioning | .website => IsMapOf fun _ => True
  | .timeCreated | .metageneration => IsScalar
  | .cors => IsListOf (IsMapOf CorsRule.Shaped)
  | .acl | .defaultObjectAcl => IsListOf (IsMapOf Grant.Shaped)
  | _ => fun _ => True

/-- Have the sections of a resource the shape that is asked for? -/
def Shaped (es : List (String × Value)) : Prop :=
  ∀ k : Key, Optional k.Shape ((valueAt? k.text es).getD .null)

/-- What is wrong with the resource of a bucket, in the order in which it is found. -/
def defects (es : List (String × Value)) : List (Failure Value) :=
  missingPart "name" (valueAt? "name" es) ++ Entity.ownerDefects (valueAt? "owner" es) ++
  notInstant "timeCreated" (valueAt? "timeCreated" es) ++
  notInteger "metageneration" (valueAt? "metageneration" es) ++
  itemDefects CorsRule.defects (valueAt? "cors" es) ++
  itemDefects Grant.defects (valueAt? "acl" es) ++
  itemDefects Grant.defects (valueAt? "defaultObjectAcl" es)

/-- What is wrong with what is at a key. -/
def Key.defects : Key → Option Value → List (Failure Value)
  | .name => missingPart "name"
  | .owner => Entity.ownerDefects
  | .timeCreated => notInstant "timeCreated"
  | .metageneration => notInteger "metageneration"
  | .cors => itemDefects CorsRule.defects
  | .acl | .defaultObjectAcl => itemDefects Grant.defects
  | _ => fun _ => []

theorem failure?_versioning {s : Option Value}
    (shaped : Optional (IsMapOf fun _ => True) (s.getD .null)) :
    failure? (((Form.asIs IsFlag).within "enabled").read s) = none := by
  simp only [Form.within, asIs_optional_read]
  generalize s.getD .null = v at shaped ⊢
  apply failure?_section rfl _ shaped
  intro es
  rfl

theorem failure?_pages {s : Option Value}
    (shaped : Optional (IsMapOf fun _ => True) (s.getD .null)) :
    failure? (websiteCodec.read s) = none := by
  simp only [websiteCodec]
  generalize s.getD .null = v at shaped ⊢
  apply failure?_section rfl _ shaped
  intro es
  rfl

/-- What is at a key is read up to its first defect. -/
theorem Key.failure?_read (k : Key) {s : Option Value} (shaped : Optional k.Shape (s.getD .null)) :
    failure? (k.codec.read s) = (k.defects s).head? := by
  cases k with
  | name => exact failure?_required _ s
  | owner => exact Entity.failure?_owner shaped
  | versioning => exact failure?_versioning shaped
  | website => exact failure?_pages shaped
  | timeCreated => exact failure?_instant _ s
  | metageneration => exact failure?_integer _ shaped
  | cors => exact failure?_list _ (fun _ => CorsRule.failure?_form) shaped
  | acl | defaultObjectAcl => exact failure?_list _ (fun _ => Grant.failure?_form) shaped
  | id | selfLink | etag | location | storageClass =>
    exact congrArg failure? (asIs_optional_read IsText s)

theorem failure?_decode_of_shaped {es : List (String × Value)} (shaped : Shaped es) :
    failure? (decode (.map es)).result = (defects es).head? := by
  have listed : (readOrder.flatMap fun k => k.defects (valueAt? k.text es)) = defects es := by
    simp [readOrder, Key.defects, Key.text, defects]
  rw [failure?_decode, ← listed, List.head?_flatMap]
  exact congrArg (readOrder.findSome? ·) (funext fun k => k.failure?_read (shaped k))

/-- Every defect is one that the library accounts for, if the owner's entity is spelled. -/
theorem accounted_defects {es : List (String × Value)}
    (owner : Optional (IsMapOf Entity.SpellsOwner) ((valueAt? "owner" es).getD .null)) :
    ∀ f ∈ defects es, f.isAccountedFor := by
  have none : ∀ f ∈ Entity.ownerDefects (valueAt? "owner" es), f.isAccountedFor := by
    rw [Entity.ownerDefects_eq_nil owner]
    simp
  simp only [defects, List.forall_mem_append]
  exact ⟨⟨⟨⟨⟨⟨accounted_missingPart _ _, none⟩, accounted_notInstant _ _⟩, accounted_notInteger _ _⟩,
    accounted_itemDefects CorsRule.accounted_defects _⟩,
    accounted_itemDefects Grant.accounted_defects _⟩,
    accounted_itemDefects Grant.accounted_defects _⟩

/-- **A bucket is refused for the first defect of its resource, and read if there is none.**  Every
defect is one that the library accounts for, but for an owner whose entity is no text. -/
theorem bucket_refused_for_first_defect (es : List (String × Value)) (shaped : Shaped es) :
    (∀ f, (decode (.map es)).result = .error f ↔ (defects es).head? = some f) ∧
      ((∃ b, (decode (.map es)).result = .ok b) ↔ defects es = []) ∧
      (Optional (IsMapOf Entity.SpellsOwner) ((valueAt? "owner" es).getD .null) →
        ∀ f ∈ defects es, f.isAccountedFor) := by
  obtain ⟨refused, read⟩ := told_of_failure? (failure?_decode_of_shaped shaped)
  exact ⟨refused, read, accounted_defects⟩

/-- A resource with two rules, the second of which names two unknown methods, and with a grant of an
unknown role in its second access list. -/
def leaky : List (String × Value) := [
  ("defaultObjectAcl", .list [.map [("role", "READ"), ("entity", "allUsers")]]), ("acl", .list []),
  ("cors", .list [.map [("method", .list ["get", "Head"]), ("origin", .list ["*"])],
    .map [("method", .list ["PUT", "PATCH", ""]), ("responseHeader", .null)]]),
  ("timeCreated", "2020-02-29T00:00:00Z"), ("metageneration", .null),
  ("owner", .map [("entity", "user-x")]), ("versioning", .map []), ("name", "leaky")
]

theorem shaped_leaky : Shaped leaky := by
  have texts : ∀ names : List String, Value.IsListOf IsText (.list (names.map .text)) := by
    intro names
    refine ⟨_, rfl, fun v hv => ?_⟩
    obtain ⟨s, -, rfl⟩ := List.mem_map.1 hv
    exact ⟨s, rfl⟩
  intro k
  cases k with
  | name | timeCreated => exact Or.inr trivial
  | owner | versioning => exact Or.inr ⟨_, rfl, trivial⟩
  | cors =>
    refine Or.inr ⟨_, rfl, ?_⟩
    rintro v (_ | ⟨_, _ | ⟨_, ⟨⟩⟩⟩)
    · refine ⟨_, rfl, fun f => ?_⟩
      cases f with
      | methods => exact Or.inr (texts ["get", "Head"])
      | origins => exact Or.inr (texts ["*"])
      | _ => exact Or.inl rfl
    · refine ⟨_, rfl, fun f => ?_⟩
      cases f with
      | methods => exact Or.inr (texts ["PUT", "PATCH", ""])
      | _ => exact Or.inl rfl
  | acl =>
    refine Or.inr ⟨_, rfl, ?_⟩
    rintro v ⟨⟩
  | defaultObjectAcl =>
    refine Or.inr ⟨_, rfl, ?_⟩
    rintro v (_ | ⟨_, ⟨⟩⟩)
    exact ⟨_, rfl, Or.inr ⟨_, rfl⟩, Or.inr ⟨_, rfl⟩⟩
  | _ => exact Or.inl rfl

theorem refused_leaky :
    Shaped leaky ∧
      Optional (IsMapOf Entity.SpellsOwner) ((valueAt? "owner" leaky).getD .null) ∧
      defects leaky = [.unknownMethod "PATCH" (some .unknownName),
        .unknownMethod "" (some .unknownName), .unknownRole "READ" (some .unknownName)] ∧
      (decode (.map leaky)).result = .error (.unknownMethod "PATCH" (some .unknownName)) ∧
      (Failure.unknownRole (Value.text "READ") (some .unknownName)).isAccountedFor := by
  obtain ⟨told, -, accounted⟩ := bucket_refused_for_first_defect leaky shaped_leaky
  have listed : defects leaky = [.unknownMethod "PATCH" (some .unknownName),
    .unknownMethod "" (some .unknownName), .unknownRole "READ" (some .unknownName)] := by
    have stamp : (Value.text "2020-02-29T00:00:00Z").instant?.isSome = true := by decide +kernel
    have created : notInstant "timeCreated" (valueAt? "timeCreated" leaky) = [] := by
      rw [notInstant_eq]
      exact if_pos (Or.inr stamp)
    rw [defects, created, notInteger_eq]
    rfl
  have owner : Optional (IsMapOf Entity.SpellsOwner) ((valueAt? "owner" leaky).getD .null) :=
    Or.inr ⟨_, rfl, Or.inr ⟨_, rfl⟩⟩
  refine ⟨shaped_leaky, owner, listed, (told _).2 (congrArg List.head? listed),
    accounted owner _ ?_⟩
  rw [listed]
  simp

end Bucket

end StorageMetadata
