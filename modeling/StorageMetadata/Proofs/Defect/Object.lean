import StorageMetadata.Proofs.Defect.Part
import StorageMetadata.Proofs.Object.Failure

/-!
# Which objects are refused, and for what

`Object.defects` lists what is wrong with the resource of an object: the mandatory parts that are
missing, the values that are no integers or no timestamps, the entries of the access list that lack
something.  A resource of the right shape is read if there is nothing to list, and is refused for the
first thing on the list otherwise:

    (decode (.map es)).result = .error f ↔ (defects es).head? = some f.
-/

namespace StorageMetadata.Object

open StorageMetadata.Resource StorageMetadata.Value StorageMetadata.Result

/-- The values that a resource may have at the key of a field, besides nothing, whether or not they
can be read. -/
def Field.Shape : Field → Value → Prop
  | .generation | .metageneration | .size | .deleteTime | .updateTime => IsScalar
  | .owner => IsMapOf Entity.SpellsOwner
  | .acl => IsListOf (IsMapOf Grant.Shaped)
  | .metadata => IsMapOf AreTexts
  | _ => fun _ => True

/-- Have the sections of a resource the shape that is asked for? -/
def Shaped (es : List (String × Value)) : Prop :=
  ∀ f : Field, Optional f.Shape ((valueAt? f.key es).getD .null)

/-- What is wrong with the resource of an object, in the order in which it is found. -/
def defects (es : List (String × Value)) : List (Failure Value) :=
  missingPart "bucket" (valueAt? "bucket" es) ++ missingPart "name" (valueAt? "name" es) ++
  notInteger "generation" (valueAt? "generation" es) ++
  notInteger "metageneration" (valueAt? "metageneration" es) ++
  notInstant "timeDeleted" (valueAt? "timeDeleted" es) ++
  notInstant "updated" (valueAt? "updated" es) ++ notInteger "size" (valueAt? "size" es) ++
  itemDefects Grant.defects (valueAt? "acl" es)

/-- What is wrong with what is at the key of a field. -/
def Field.defects : Field → Option Value → List (Failure Value)
  | .bucket => missingPart "bucket"
  | .name => missingPart "name"
  | .generation => notInteger "generation"
  | .metageneration => notInteger "metageneration"
  | .size => notInteger "size"
  | .deleteTime => notInstant "timeDeleted"
  | .updateTime => notInstant "updated"
  | .acl => itemDefects Grant.defects
  | _ => fun _ => []

theorem failure?_metadata {s : Option Value}
    (shaped : Optional (IsMapOf AreTexts) (s.getD .null)) :
    failure? (metadataForm.optional.read s) = none := by
  simp only [Form.optional]
  generalize s.getD .null = v at shaped ⊢
  apply failure?_section rfl _ shaped
  intro es
  rfl

/-- A field is read up to the first defect of what is at its key. -/
theorem Field.failure?_read (f : Field) {s : Option Value} (shaped : Optional f.Shape (s.getD .null)) :
    failure? (f.codec.read s) = (f.defects s).head? := by
  cases f with
  | bucket | name => exact failure?_required _ s
  | generation | metageneration | size => exact failure?_integer _ shaped
  | deleteTime | updateTime => exact failure?_instant _ s
  | owner =>
    have read := Entity.failure?_owner (shaped.imp fun _ ⟨es, hes, _⟩ => ⟨es, hes, trivial⟩)
    rw [Entity.ownerDefects_eq_nil shaped] at read
    exact read
  | acl => exact failure?_list _ (fun _ => Grant.failure?_form) shaped
  | metadata => exact failure?_metadata shaped
  | id | selfLink | mediaLink | etag => exact congrArg failure? (asIs_optional_read IsText s)
  | componentCount => exact congrArg failure? (asIs_optional_read IsInteger s)
  | _ => rfl

theorem failure?_decode_of_shaped {es : List (String × Value)} (shaped : Shaped es) :
    failure? (decode (.map es)).result = (defects es).head? := by
  have listed : (readOrder.flatMap fun f => f.defects (valueAt? f.key es)) = defects es := by
    simp [readOrder, Field.defects, Field.key, defects]
  rw [failure?_decode, ← listed, List.head?_flatMap]
  exact congrArg (readOrder.findSome? ·) (funext fun f => f.failure?_read (shaped f))

theorem accounted_defects (es : List (String × Value)) : ∀ f ∈ defects es, f.isAccountedFor := by
  simp only [defects, List.forall_mem_append]
  exact ⟨⟨⟨⟨⟨⟨⟨accounted_missingPart _ _, accounted_missingPart _ _⟩, accounted_notInteger _ _⟩,
    accounted_notInteger _ _⟩, accounted_notInstant _ _⟩, accounted_notInstant _ _⟩,
    accounted_notInteger _ _⟩, accounted_itemDefects Grant.accounted_defects _⟩

/-- **An object is refused for the first defect of its resource, and read if there is none.**  Every
defect is one that the library accounts for. -/
theorem object_refused_for_first_defect (es : List (String × Value)) (shaped : Shaped es) :
    (∀ f, (decode (.map es)).result = .error f ↔ (defects es).head? = some f) ∧
      ((∃ o, (decode (.map es)).result = .ok o) ↔ defects es = []) ∧
      ∀ f ∈ defects es, f.isAccountedFor := by
  obtain ⟨refused, read⟩ := told_of_failure? (failure?_decode_of_shaped shaped)
  exact ⟨refused, read, accounted_defects es⟩

/-- A resource that is wrong in four places. -/
def blemished : List (String × Value) := [
  ("acl", .list [.map [("entity", "allUsers"), ("role", "READER")],
    .map [("entity", .null), ("role", "NOBODY")]]),
  ("timeDeleted", "yesterday"), ("generation", " 7 "), ("owner", .map [("entity", .null)]),
  ("metageneration", .bool true), ("name", "n"), ("bucket", "b")
]

theorem shaped_blemished : Shaped blemished := by
  intro f
  cases f with
  | bucket | name | generation | metageneration | deleteTime => exact Or.inr trivial
  | owner => exact Or.inr ⟨_, rfl, Or.inl rfl⟩
  | acl =>
    refine Or.inr ⟨_, rfl, ?_⟩
    rintro v (_ | ⟨_, _ | ⟨_, ⟨⟩⟩⟩)
    · exact ⟨_, rfl, Or.inr ⟨_, rfl⟩, Or.inr ⟨_, rfl⟩⟩
    · exact ⟨_, rfl, Or.inl rfl, Or.inr ⟨_, rfl⟩⟩
  | _ => exact Or.inl rfl

theorem refused_blemished :
    Shaped blemished ∧
      defects blemished = [.wireFormat .integer "metageneration" (.bool true) none,
        .wireFormat .timestamp "timeDeleted" "yesterday" (some .malformed), .missingField "entity",
        .unknownRole "NOBODY" (some .unknownName)] ∧
      (decode (.map blemished)).result =
        .error (.wireFormat .integer "metageneration" (.bool true) none) := by
  obtain ⟨told, -, -⟩ := object_refused_for_first_defect blemished shaped_blemished
  have listed : defects blemished = [.wireFormat .integer "metageneration" (.bool true) none,
      .wireFormat .timestamp "timeDeleted" "yesterday" (some .malformed), .missingField "entity",
      .unknownRole "NOBODY" (some .unknownName)] := by
    simp only [defects, notInteger_eq, notInstant_eq]
    rfl
  exact ⟨shaped_blemished, listed, (told _).2 (congrArg List.head? listed)⟩

end StorageMetadata.Object
