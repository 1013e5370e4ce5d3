import StorageMetadata.Proofs.Bucket.Failure
import StorageMetadata.Proofs.Object.Failure

/-!
# Mandatory parts that a resource lacks

Some parts of a resource must be there: the bucket and the name of an object, the name of a bucket,
the entity and the role of each grant, the text of each origin.  `Object.missing?`, `Bucket.missing?`,
`CorsRule.missing?` and `Grant.missing?` give the first of them that is missing or holds nothing, in
the order in which a resource is read.

A resource that lacks such a part is refused.  It is refused for that part if it is `Legible`, that
is, if nothing else is in the way of reading it up to there:

    Legible es → failure? (decode (.map es)).result = (missing? es).map .missingField.
-/

namespace StorageMetadata

open StorageMetadata.Resource StorageMetadata.Value StorageMetadata.Result

namespace Resource

/-! ### Refusing what lacks a part -/

/-- Is what lacks a part refused, and is what is legible refused for that alone? -/
structure RefusesLack {α : Type} (x : Result α) (missing? : Option String) (legible : Prop) :
    Prop where
  refused : ∀ part, missing? = some part → ∃ f, x = .error f
  told : legible → failure? x = missing?.map fun part => .missingField part

theorem refusesLack_ok {α : Type} (a : α) (legible : Prop) :
    RefusesLack (.ok a : Result α) none legible where
  refused part h := by cases h
  told _ := rfl

theorem refusesLack_missingField {α : Type} (part : String) (legible : Prop) :
    RefusesLack (.error (.missingField part) : Result α) (some part) legible where
  refused _ _ := ⟨_, rfl⟩
  told _ := rfl

theorem refusesLack_none {α : Type} {x : Result α} {legible : Prop}
    (h : legible → ∃ a, x = .ok a) : RefusesLack x none legible where
  refused part h := by cases h
  told legible := failure?_eq_none_iff.2 (h legible)

theorem RefusesLack.map {α β : Type} {x : Result α} {missing? : Option String} {legible : Prop}
    (h : RefusesLack x missing? legible) (f : α → β) :
    RefusesLack (x.map f) missing? legible where
  refused part lacks := by
    obtain ⟨e, refused⟩ := h.refused part lacks
    exact ⟨e, by rw [refused]; rfl⟩
  told legible := (failure?_map x f).trans (h.told legible)

theorem RefusesLack.bind {α β : Type} {x : Result α} {f : α → Result β}
    {first? later? : Option String} {legible : Prop} (hx : RefusesLack x first? True)
    (hf : ∀ a, x = .ok a → RefusesLack (f a) later? legible) :
    RefusesLack (x >>= f) (first?.or later?) legible := by
  have told := hx.told trivial
  cases first? with
  | none =>
    obtain ⟨a, rfl⟩ := failure?_eq_none_iff.1 told
    exact hf a rfl
  | some part =>
    rw [failure?_eq_some_iff.1 told]
    exact refusesLack_missingField part legible

/-- Is everything legible up to the first thing that lacks a part? -/
def LegibleUntil {κ : Type} (missing? : κ → Option String) (Legible : κ → Prop) : List κ → Prop
  | [] => True
  | k :: rest => Legible k ∧ (missing? k = none → LegibleUntil missing? Legible rest)

theorem legibleUntil_of_forall {κ : Type} {missing? : κ → Option String} {Legible : κ → Prop}
    {order : List κ} (h : ∀ k ∈ order, Legible k) : LegibleUntil missing? Legible order := by
  induction order with
  | nil => trivial
  | cons k rest ih =>
    obtain ⟨here, there⟩ := List.forall_mem_cons.1 h
    exact ⟨here, fun _ => ih there⟩

/-- What is read in several steps is refused if one of the steps refuses it. -/
theorem refusesLack_findSome? {α κ : Type} {β : κ → Type} {x : Result α} {order : List κ}
    {step : ∀ k, Result (β k)} {missing? : κ → Option String} {Legible : κ → Prop}
    (first : failure? x = order.findSome? fun k => failure? (step k))
    (h : ∀ k ∈ order, RefusesLack (step k) (missing? k) (Legible k)) :
    RefusesLack x (order.findSome? missing?) (LegibleUntil missing? Legible order) where
  refused part lacks := by
    obtain ⟨k, hk, lacks⟩ := List.exists_of_findSome?_eq_some lacks
    obtain ⟨f, refused⟩ := (h k hk).refused part lacks
    have fails : (failure? x).isSome := by
      rw [first, List.findSome?_isSome_iff]
      exact ⟨k, hk, by rw [refused]; rfl⟩
    obtain ⟨g, hg⟩ := Option.isSome_iff_exists.1 fails
    exact ⟨g, failure?_eq_some_iff.1 hg⟩
  told legible := by
    rw [first]
    clear first
    induction order with
    | nil => rfl
    | cons k rest ih =>
      obtain ⟨here, there⟩ := List.forall_mem_cons.1 h
      obtain ⟨first, later⟩ := legible
      rw [findSome?_cons_or, findSome?_cons_or, here.told first]
      cases lacks : missing? k with
      | none => exact ih there (later lacks)
      | some part => rfl

/-- The key, if nothing is there. -/
def missingAt? (key : String) (s : Option Value) : Option String :=
  if s.getD .null = .null then some key else none

theorem refusesLack_required (key : String) (s : Option Value) :
    RefusesLack ((Codec.required key).read s) (missingAt? key s) True := by
  simp only [Codec.required, missingAt?]
  split
  · exact refusesLack_missingField key _
  · exact refusesLack_ok _ _

/-- What a map lacks; of other values nothing is said. -/
def missingIn? (missing? : List (String × Value) → Option String) : Value → Option String
  | .map es => missing? es
  | _ => none

theorem refusesLack_of_map {α : Type} {read : Value → Result α}
    {missing? : List (String × Value) → Option String} {Legible : List (String × Value) → Prop}
    (h : ∀ es, RefusesLack (read (.map es)) (missing? es) (Legible es)) (v : Value) :
    RefusesLack (read v) (missingIn? missing? v) (IsMapOf Legible v) := by
  by_cases map : ∃ es, v = .map es
  · obtain ⟨es, rfl⟩ := map
    refine ⟨(h es).refused, fun legible => ?_⟩
    obtain ⟨_, ⟨⟩, legible⟩ := legible
    exact (h es).told legible
  · have nothing : missingIn? missing? v = none := by
      unfold missingIn?
      split
      next es => exact absurd ⟨es, rfl⟩ map
      next => rfl
    rw [nothing]
    refine refusesLack_none fun legible => ?_
    obtain ⟨es, rfl, -⟩ := legible
    exact absurd ⟨es, rfl⟩ map

/-- What the first item of a list lacks that lacks something. -/
def missingItem? (missing? : Value → Option String) : Option Value → Option String
  | some (.list items) => items.findSome? missing?
  | _ => none

/-- Is there nothing, or a list that is legible up to the first item that lacks something? -/
def LegibleItems (missing? : Value → Option String) (Legible : Value → Prop) : Option Value → Prop
  | some (.list items) => LegibleUntil missing? Legible items
  | s => s.getD .null = .null

theorem refusesLack_list {F : Form} {missing? : Value → Option String} {Legible : Value → Prop}
    (h : ∀ v, RefusesLack (F.decode v) (missing? v) (Legible v)) (s : Option Value) :
    RefusesLack (F.list.optional.read s) (missingItem? missing? s)
      (LegibleItems missing? Legible s) := by
  unfold missingItem? LegibleItems
  split
  next items =>
    have read : F.list.optional.read (some (.list items)) = (items.mapM F.decode).map .list :=
      bind_pure_eq_map _ _
    rw [read]
    exact (refusesLack_findSome? (failure?_mapM F.decode items) fun v _ => h v).map _
  next => exact refusesLack_none fun legible => ⟨.null, if_pos legible⟩

end Resource

/-! ### Grants -/

namespace Grant

/-- The mandatory part that an entry of an access list lacks. -/
def missing? (es : List (String × Value)) : Option String :=
  (missingAt? "entity" (valueAt? "entity" es)).or (missingAt? "role" (valueAt? "role" es))

/-- Can an entry of an access list be read, unless it lacks a part? -/
def Legible (es : List (String × Value)) : Prop :=
  missing? es = none → ∃ g, (decode (.map es)).result = .ok g

theorem refusesLack (es : List (String × Value)) :
    RefusesLack (decode (.map es)).result (missing? es) (Legible es) := by
  have missing : missing? es = (missingAt? "entity" (valueAt? "entity" es)).or
      ((missingAt? "role" (valueAt? "role" es)).or none) := by
    rw [missing?, Option.or_none]
  rw [result_decode_map, missing]
  refine (refusesLack_required _ _).bind fun entity hentity =>
    (refusesLack_required _ _).bind fun role hrole => refusesLack_none fun legible => ?_
  -- Both parts are there.
  obtain ⟨entityThere, someEntity⟩ := (required_read_eq_ok_iff _).1 hentity
  obtain ⟨roleThere, someRole⟩ := (required_read_eq_ok_iff _).1 hrole
  have nothing : missing? es = none := by
    simp only [missing?, missingAt?, entityThere, roleThere, Option.getD_some, if_neg someEntity,
      if_neg someRole, Option.or_none]
  obtain ⟨g, hg⟩ := legible nothing
  rw [result_decode_map, hentity] at hg
  change ((Codec.required "role").read _ >>= _) = .ok g at hg
  rw [hrole] at hg
  exact ⟨g, hg⟩

/-- What the first entry of an access list lacks that lacks something. -/
def missingAmong? : Option Value → Option String := missingItem? (missingIn? missing?)

/-- Can the entries of an access list be read up to the first that lacks something? -/
def LegibleAmong : Option Value → Prop := LegibleItems (missingIn? missing?) (IsMapOf Legible)

theorem refusesLack_form (s : Option Value) :
    RefusesLack (form.list.optional.read s) (missingAmong? s) (LegibleAmong s) := by
  have each : ∀ v, RefusesLack (decode v).result (missingIn? missing? v) (IsMapOf Legible v) :=
    refusesLack_of_map refusesLack
  exact refusesLack_list (fun v => (each v).map Value.grant) s

end Grant

/-! ### Rules -/

/-- The mandatory part that the text of an origin lacks: itself. -/
def Origin.missing? (v : Value) : Option String := missingAt? "value" (some v)

theorem Origin.refusesLack (v : Value) : RefusesLack (Origin.of v) (missing? v) True := by
  cases v with
  | null => exact refusesLack_missingField _ _
  | _ => exact refusesLack_ok _ _

namespace CorsRule

/-- What is missing at the key of a field. -/
def Field.missing? : Field → Option Value → Option String
  | .origins, s => missingItem? Origin.missing? s
  | _, _ => none

/-- Can what is at the key of a field be read, up to what is missing? -/
def Field.Legible : Field → Option Value → Prop
  | .origins, s => LegibleItems Origin.missing? (fun _ => True) s
  | f, s => ∃ v, f.codec.read s = .ok v

/-- The first mandatory part that a rule of a resource lacks. -/
def missing? (es : List (String × Value)) : Option String :=
  Field.all.findSome? fun f => f.missing? (valueAt? f.key es)

/-- Can a rule of a resource be read up to what is missing? -/
def Legible (es : List (String × Value)) : Prop :=
  LegibleUntil (fun f : Field => f.missing? (valueAt? f.key es))
    (fun f => f.Legible (valueAt? f.key es)) Field.all

theorem Field.refusesLack (f : Field) (s : Option Value) :
    RefusesLack (f.codec.read s) (f.missing? s) (f.Legible s) := by
  cases f with
  | origins => exact refusesLack_list (fun v => (Origin.refusesLack v).map _) s
  | _ => exact refusesLack_none fun legible => legible

theorem refusesLack (es : List (String × Value)) :
    RefusesLack (decode (.map es)).result (missing? es) (Legible es) :=
  refusesLack_findSome? (failure?_decode es) fun f _ => f.refusesLack _

end CorsRule

/-! ### Objects -/

namespace Object

/-- What is missing at the key of a field. -/
def Field.missing? : Field → Option Value → Option String
  | .bucket, s => missingAt? "bucket" s
  | .name, s => missingAt? "name" s
  | .acl, s => Grant.missingAmong? s
  | _, _ => none

/-- Can what is at the key of a field be read, up to what is missing? -/
def Field.Legible : Field → Option Value → Prop
  | .bucket, _ | .name, _ => True
  | .acl, s => Grant.LegibleAmong s
  | f, s => ∃ v, f.codec.read s = .ok v

/-- The first mandatory part that the resource of an object lacks. -/
def missing? (es : List (String × Value)) : Option String :=
  readOrder.findSome? fun f => f.missing? (valueAt? f.key es)

/-- Can the resource of an object be read up to what is missing? -/
def Legible (es : List (String × Value)) : Prop :=
  LegibleUntil (fun f : Field => f.missing? (valueAt? f.key es))
    (fun f => f.Legible (valueAt? f.key es)) readOrder

theorem Field.refusesLack (f : Field) (s : Option Value) :
    RefusesLack (f.codec.read s) (f.missing? s) (f.Legible s) := by
  cases f with
  | bucket | name => exact refusesLack_required _ s
  | acl => exact Grant.refusesLack_form s
  | _ => exact refusesLack_none fun legible => legible

theorem refusesLack (es : List (String × Value)) :
    RefusesLack (decode (.map es)).result (missing? es) (Legible es) :=
  refusesLack_findSome? (failure?_decode es) fun f _ => f.refusesLack _

end Object

/-! ### Buckets -/

namespace Bucket

/-- What is missing at a key. -/
def Key.missing? : Key → Option Value → Option String
  | .name, s => missingAt? "name" s
  | .cors, s => missingItem? (missingIn? CorsRule.missing?) s
  | .acl, s | .defaultObjectAcl, s => Grant.missingAmong? s
  | _, _ => none

/-- Can what is at a key be read, up to what is missing? -/
def Key.Legible : Key → Option Value → Prop
  | .name, _ => True
  | .cors, s => LegibleItems (missingIn? CorsRule.missing?) (IsMapOf CorsRule.Legible) s
  | .acl, s | .defaultObjectAcl, s => Grant.LegibleAmong s
  | k, s => ∃ v, k.codec.read s = .ok v

/-- The first mandatory part that the resource of a bucket lacks. -/
def missing? (es : List (String × Value)) : Option String :=
  readOrder.findSome? fun k => k.missing? (valueAt? k.text es)

/-- Can the resource of a bucket be read up to what is missing? -/
def Legible (es : List (String × Value)) : Prop :=
  LegibleUntil (fun k : Key => k.missing? (valueAt? k.text es))
    (fun k => k.Legible (valueAt? k.text es)) readOrder

theorem Key.refusesLack (k : Key) (s : Option Value) :
    RefusesLack (k.codec.read s) (k.missing? s) (k.Legible s) := by
  cases k with
  | name => exact refusesLack_required _ s
  | cors =>
    have each : ∀ v, RefusesLack (CorsRule.decode v).result (missingIn? CorsRule.missing? v)
        (IsMapOf CorsRule.Legible v) := refusesLack_of_map CorsRule.refusesLack
    exact refusesLack_list (fun v => (each v).map Value.rule) s
  | acl | defaultObjectAcl => exact Grant.refusesLack_form s
  | _ => exact refusesLack_none fun legible => legible

theorem refusesLack (es : List (String × Value)) :
    RefusesLack (decode (.map es)).result (missing? es) (Legible es) :=
  refusesLack_findSome? (failure?_decode es) fun k _ => k.refusesLack _

end Bucket

end StorageMetadata
