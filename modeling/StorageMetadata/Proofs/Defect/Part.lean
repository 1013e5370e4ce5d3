import StorageMetadata.Proofs.Access.Grant
import StorageMetadata.Proofs.Resource.Instant
import StorageMetadata.Proofs.Resource.Integer

/-!
# What is wrong with a part of a resource

A resource can be wrong in many places at once.  The functions here list the defects of what is at one
key of it: a mandatory part that is missing, a value that is no integer or no timestamp, an entry of
an access list that lacks a part or names no role.  A defect is the failure that it would be told as,
with the key and the value that it is about.

Reading goes as far as the first defect,

    failure? (C.read s) = (defects s).head?,

if what is at the key has the shape that the key asks for.  The items of a list are read in order, so
the defects of a list are those of its items, one after the other.
-/

namespace StorageMetadata

open StorageMetadata.Value StorageMetadata.Result

namespace Value

/-- Is the value one that may stand where a number or an instant is meant: a text, a truth value, or a
number that has few enough digits? -/
def IsScalar : Value → Prop
  | .text _ | .bool _ | .float _ => True
  | .int n => Decimal.Fits n
  | _ => False

end Value

namespace Resource

/-- What fails with the first of some defects succeeds exactly if there are none. -/
theorem told_of_failure? {α : Type} {x : Result α} {defects : List (Failure Value)}
    (first : failure? x = defects.head?) :
    (∀ f, x = .error f ↔ defects.head? = some f) ∧ ((∃ a, x = .ok a) ↔ defects = []) := by
  constructor
  · intro f
    rw [← first, failure?_eq_some_iff]
  · rw [← failure?_eq_none_iff, first, List.head?_eq_none_iff]

/-! ### Mandatory parts -/

/-- A mandatory part that is missing. -/
def missingPart (key : String) (s : Option Value) : List (Failure Value) :=
  if s.getD .null = .null then [.missingField key] else []

theorem failure?_required (key : String) (s : Option Value) :
    failure? ((Codec.required key).read s) = (missingPart key s).head? := by
  simp only [Codec.required, missingPart]
  split
  next => rfl
  next => rfl

/-! ### Integers and instants -/

/-- What a value that is no integer is due to: a text is put together wrong. -/
def integerCause : Value → Option Fault
  | .text _ => some .malformed
  | _ => none

/-- A value that is there and stands for no integer. -/
def notInteger (key : String) (s : Option Value) : List (Failure Value) :=
  if s.getD .null = .null ∨ ∃ n, (s.getD .null).StandsFor n then []
  else [.wireFormat .integer key (s.getD .null) (integerCause (s.getD .null))]

/-- Whether a value stands for an integer can be computed. -/
theorem notInteger_eq (key : String) (s : Option Value) :
    notInteger key s = if s.getD .null = .null ∨ (s.getD .null).integer?.isSome then []
      else [.wireFormat .integer key (s.getD .null) (integerCause (s.getD .null))] := by
  simp only [notInteger, exists_standsFor_iff]

/-- What a value that is no instant is due to: a text is put together wrong, and anything else is of
the wrong kind. -/
def instantCause : Value → Fault
  | .text _ => .malformed
  | _ => .mistyped

/-- A value that is there and names no instant. -/
def notInstant (key : String) (s : Option Value) : List (Failure Value) :=
  if s.getD .null = .null ∨ ∃ n, (s.getD .null).NamesInstant n then []
  else [.wireFormat .timestamp key (s.getD .null) (some (instantCause (s.getD .null)))]

/-- Whether a value names an instant can be computed. -/
theorem notInstant_eq (key : String) (s : Option Value) :
    notInstant key s = if s.getD .null = .null ∨ (s.getD .null).instant?.isSome then []
      else [.wireFormat .timestamp key (s.getD .null) (some (instantCause (s.getD .null)))] := by
  simp only [notInstant, exists_namesInstant_iff]

/-- A scalar is read as the integer that it stands for, if it stands for one. -/
theorem failure?_readInteger (key : String) {v : Value} (scalar : v.IsScalar) :
    failure? (readInteger key v) =
      if v.integer?.isSome then none else some (.wireFormat .integer key v (integerCause v)) := by
  cases v with
  | int n => rfl
  | bool b => rfl
  | text s =>
    cases h : Decimal.read? s with
    | none =>
      simp only [readInteger, integer?, h]
      rfl
    | some n =>
      simp only [readInteger, integer?, h]
      rfl
  | float x =>
    cases h : x.toInt? with
    | none =>
      simp only [readInteger, integer?, h]
      rfl
    | some n =>
      simp only [readInteger, integer?, h]
      rfl
  | _ => exact scalar.elim

theorem failure?_readInstant (key : String) (v : Value) :
    failure? (readInstant key v) =
      if v.instant?.isSome then none
      else some (.wireFormat .timestamp key v (some (instantCause v))) := by
  cases v with
  | text s =>
    cases h : Timestamp.read? s with
    | none =>
      simp only [readInstant, instant?, h]
      rfl
    | some n =>
      simp only [readInstant, instant?, h]
      rfl
  | _ => rfl

theorem failure?_integer (key : String) {s : Option Value}
    (shaped : Optional IsScalar (s.getD .null)) :
    failure? ((Form.integer key).optional.read s) = (notInteger key s).head? := by
  simp only [Form.optional, Form.integer, notInteger_eq]
  by_cases none : s.getD .null = .null
  · simp only [none, if_true, true_or]
    rfl
  · have scalar := shaped.resolve_left none
    rw [if_neg none, failure?_map, failure?_readInteger key scalar]
    simp only [none, false_or]
    split
    next => rfl
    next => rfl

theorem failure?_instant (key : String) (s : Option Value) :
    failure? ((Form.instant key).optional.read s) = (notInstant key s).head? := by
  simp only [Form.optional, Form.instant, notInstant_eq]
  by_cases none : s.getD .null = .null
  · simp only [none, if_true, true_or]
    rfl
  · rw [if_neg none, failure?_map, failure?_readInstant]
    simp only [none, false_or]
    split
    next => rfl
    next => rfl

theorem accounted_missingPart (key : String) (s : Option Value) :
    ∀ f ∈ missingPart key s, f.isAccountedFor := by
  unfold missingPart
  split <;> simp [Failure.isAccountedFor]

theorem accounted_notInteger (key : String) (s : Option Value) :
    ∀ f ∈ notInteger key s, f.isAccountedFor := by
  unfold notInteger
  split <;> simp [Failure.isAccountedFor]

theorem accounted_notInstant (key : String) (s : Option Value) :
    ∀ f ∈ notInstant key s, f.isAccountedFor := by
  unfold notInstant
  split <;> simp [Failure.isAccountedFor]

/-! ### Sections -/

/-- A section in which nothing can be wrong is read. -/
theorem failure?_section {α : Type} {P : List (String × Value) → Prop} {v : Value}
    {missing : Result α} {read : Value → Result α} (unset : failure? missing = none)
    (map : ∀ es, failure? (read (.map es)) = none) (shaped : Optional (IsMapOf P) v) :
    failure? (if v = .null then missing else read v) = none := by
  split
  next => exact unset
  next some =>
    obtain ⟨es, rfl, -⟩ := shaped.resolve_left some
    exact map es

/-! ### Lists -/

/-- The defects of the items of a list. -/
def itemDefects (defects : Value → List (Failure Value)) : Option Value → List (Failure Value)
  | some (.list items) => items.flatMap defects
  | _ => []

/-- A list is read up to the first defect of the first item that has any. -/
theorem failure?_list {F : Form} {P : Value → Prop} (defects : Value → List (Failure Value))
    (each : ∀ v, P v → failure? (F.decode v) = (defects v).head?) {s : Option Value}
    (shaped : Optional (IsListOf P) (s.getD .null)) :
    failure? (F.list.optional.read s) = (itemDefects defects s).head? := by
  by_cases none : s.getD .null = .null
  · have nothing : itemDefects defects s = [] := by
      unfold itemDefects
      split
      next => cases none
      next => rfl
    rw [nothing]
    simp only [Form.optional, if_pos none]
    rfl
  · obtain ⟨items, hitems, shapes⟩ := shaped.resolve_left none
    obtain rfl : s = some (.list items) := eq_some_of_getD hitems none
    have read : F.list.optional.read (some (.list items)) = (items.mapM F.decode).map .list :=
      bind_pure_eq_map _ _
    rw [read, failure?_map, failure?_mapM, itemDefects, List.head?_flatMap]
    -- The items are read one after the other, each up to its own first defect.
    clear read none hitems shaped
    induction items with
    | nil => rfl
    | cons v rest ih =>
      obtain ⟨first, others⟩ := List.forall_mem_cons.1 shapes
      rw [findSome?_cons_or, findSome?_cons_or, each v first, ih others]

theorem accounted_itemDefects {defects : Value → List (Failure Value)}
    (each : ∀ v, ∀ f ∈ defects v, f.isAccountedFor) (s : Option Value) :
    ∀ f ∈ itemDefects defects s, f.isAccountedFor := by
  intro f hf
  unfold itemDefects at hf
  split at hf
  next =>
    obtain ⟨v, -, hv⟩ := List.mem_flatMap.1 hf
    exact each v f hv
  next => cases hf

end Resource

open StorageMetadata.Resource

/-! ### Owners -/

namespace Entity

/-- An owner with an entity that is there and is no text.  No failure of the library tells of it. -/
def ownerDefects : Option Value → List (Failure Value)
  | some (.map es) => match (valueAt? "entity" es).getD .null with
    | .null | .text _ => []
    | _ => [.stray .unsupported]
  | _ => []

/-- Is nothing said of the entity of an owner, or something that spells one? -/
def SpellsOwner (owner : List (String × Value)) : Prop :=
  Optional IsText ((valueAt? "entity" owner).getD .null)

theorem failure?_decode (v : Value) :
    failure? (decode v).result = if v.text?.isSome then none else some (.stray .unsupported) := by
  cases v with
  | text s => exact failure?_eq_none_iff.2 ⟨_, decode_eq_ok_iff.2 ⟨s, rfl, rfl⟩⟩
  | _ => rfl

theorem failure?_owner {s : Option Value} (shaped : Optional (IsMapOf fun _ => True) (s.getD .null)) :
    failure? ((form.within "entity").read s) = (ownerDefects s).head? := by
  by_cases none : s.getD .null = .null
  · have nothing : ownerDefects s = [] := by
      unfold ownerDefects
      split
      next => cases none
      next => rfl
    rw [nothing]
    simp only [Form.within, if_pos none]
    rfl
  · obtain ⟨es, hes, -⟩ := shaped.resolve_left none
    obtain rfl : s = some (.map es) := eq_some_of_getD hes none
    -- The entity is read as one that may be missing.
    show failure? (form.optional.read (some ((valueAt? "entity" es).getD .null))) = _
    simp only [Form.optional, form, Option.getD_some, ownerDefects]
    generalize (valueAt? "entity" es).getD .null = v
    cases v with
    | null => rfl
    | text s => exact (failure?_map _ _).trans (failure?_decode (.text s))
    | _ => rfl

theorem ownerDefects_eq_nil {s : Option Value} (shaped : Optional (IsMapOf SpellsOwner) (s.getD .null)) :
    ownerDefects s = [] := by
  unfold ownerDefects
  split
  next owner =>
    obtain ⟨_, ⟨⟩, spells⟩ := shaped.resolve_left Value.noConfusion
    obtain h | ⟨s, h⟩ := spells
    · rw [h]
    · rw [h]
  next => rfl

end Entity

/-! ### Grants -/

namespace Grant

/-- A role that no name is read as. -/
def unknownRole : Option Value → List (Failure Value)
  | some (.text s) =>
    if s ∈ Role.all.map Role.name then [] else [.unknownRole (.text s) (some .unknownName)]
  | _ => []

/-- The defects of an entry of an access list. -/
def defects : Value → List (Failure Value)
  | .map es => missingPart "entity" (valueAt? "entity" es) ++
      (missingPart "role" (valueAt? "role" es) ++ unknownRole (valueAt? "role" es))
  | _ => []

/-- Are the entity and the role of an entry texts, as far as they are there? -/
def Shaped (es : List (String × Value)) : Prop :=
  Optional IsText ((valueAt? "entity" es).getD .null) ∧
    Optional IsText ((valueAt? "role" es).getD .null)

theorem isSome_ofName?_iff (s : String) : (Role.ofName? s).isSome ↔ s ∈ Role.all.map Role.name := by
  rw [Option.isSome_iff_exists, List.mem_map]
  constructor
  · rintro ⟨r, hr⟩
    refine ⟨r, ?_, (Role.ofName?_eq_some_iff.1 hr).symm⟩
    cases r <;> decide
  · rintro ⟨r, -, hr⟩
    exact ⟨r, Role.ofName?_eq_some_iff.2 hr.symm⟩

theorem failure?_readRole (s : String) :
    failure? (Role.read (.text s)) = (unknownRole (some (.text s))).head? := by
  simp only [Role.read, unknownRole, ← isSome_ofName?_iff]
  cases Role.ofName? s with
  | none => rfl
  | some r => rfl

/-- An entry is read up to its first defect: its entity is looked for first, then its role. -/
theorem failure?_decode {es : List (String × Value)} (shaped : Shaped es) :
    failure? (decode (.map es)).result = (defects (.map es)).head? := by
  obtain ⟨entityShape, roleShape⟩ := shaped
  simp only [result_decode_map, defects, List.head?_append]
  refine failure?_bind (failure?_required _ _) fun entity hentity => ?_
  refine failure?_bind (failure?_required _ _) fun role hrole => ?_
  -- Both parts are there, so they are texts.
  obtain ⟨entityThere, someEntity⟩ := (required_read_eq_ok_iff _).1 hentity
  obtain ⟨roleThere, someRole⟩ := (required_read_eq_ok_iff _).1 hrole
  rw [entityThere] at entityShape
  rw [roleThere] at roleShape
  obtain ⟨spelling, rfl⟩ := entityShape.resolve_left someEntity
  obtain ⟨name, rfl⟩ := roleShape.resolve_left someRole
  have named : ∀ e : Entity Value, failure? (Role.read (.text name) >>= fun r =>
      (.ok { entity := .entity e, role := r } : Result (Grant Value))) =
        (unknownRole (some (.text name))).head? := by
    intro e
    rw [← failure?_readRole]
    exact (congrArg failure? (bind_pure_eq_map _ _)).trans (failure?_map _ _)
  rw [roleThere]
  exact failure?_bind (Entity.failure?_decode (.text spelling)) fun e _ => named e

theorem failure?_form {v : Value} (shaped : IsMapOf Shaped v) :
    failure? (form.decode v) = (defects v).head? := by
  obtain ⟨es, rfl, shape⟩ := shaped
  exact (failure?_map _ _).trans (failure?_decode shape)

theorem accounted_defects (v : Value) : ∀ f ∈ defects v, f.isAccountedFor := by
  unfold defects
  split
  next es =>
    refine List.forall_mem_append.2 ⟨accounted_missingPart _ _,
      List.forall_mem_append.2 ⟨accounted_missingPart _ _, ?_⟩⟩
    unfold unknownRole
    split
    next => split <;> simp [Failure.isAccountedFor]
    next => simp
  next => simp

end Grant

end StorageMetadata
