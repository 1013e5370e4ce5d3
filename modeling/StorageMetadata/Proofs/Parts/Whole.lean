import Mathlib.Logic.Relation
import StorageMetadata.CrossOrigin.Draft
import StorageMetadata.Proofs.Result
import StorageMetadata.Proofs.Value.Comparison

/-!
# Values with all their parts

An entity, a grant and an origin are each made of a part that must not be missing, and so is a
bucket that stands for its name.  `Whole lax v` says that `v` and all the values inside it have such
a part: it is not nothing, unless it is the identifier of a project and `lax` allows for that.

Values that are taken out of a whole value, gone through or put together anew are whole too.
-/

namespace StorageMetadata

/-- The value that an entity is made of. -/
def Entity.part {α : Type} : Entity α → α
  | .user a | .group a | .domain a | .project _ a | .raw a => a

namespace Value

/-- Is the first value one of those that the second is made of? -/
inductive Part : Value → Value → Prop
  | item {v : Value} {items : List Value} : v ∈ items → Part v (.list items)
  | entry {e : String × Value} {es : List (String × Value)} : e ∈ es → Part e.2 (.map es)
  | key {e : Value × Value} {es : List (Value × Value)} : e ∈ es → Part e.1 (.keyed es)
  | keyedEntry {e : Value × Value} {es : List (Value × Value)} : e ∈ es → Part e.2 (.keyed es)
  | origin (o : Origin Value) : Part o.value (.origin o)
  | entity (e : Entity Value) : Part e.part (.entity e)
  | grant (g : Grant Value) : Part g.entity (.grant g)
  | rule (r : CorsRule Value) (f : CorsRule.Field) : Part (r.get f) (.rule r)
  | bucket {r : Record Value} {name : Value} : r.kind = .bucket name → Part name (.record r)

/-- Is the value one that is not made of others? -/
def IsAtom : Value → Prop
  | .null | .bool _ | .int _ | .float _ | .text _ | .cleared | .method _ | .draft _ => True
  | _ => False

/-- Is the part there that a value must not lack?  A project may lack its identifier if `lax` is
true. -/
def HasPart (lax : Prop) : Value → Prop
  | .entity (.project _ id) => id = .null → lax
  | .entity e => e.part ≠ .null
  | .grant g => g.entity ≠ .null
  | .origin o => o.value ≠ .null
  | .record r => ∀ name, r.kind = .bucket name → name ≠ .null
  | _ => True

/-- Has the value its part, and has everything inside it? -/
def Whole (lax : Prop) (v : Value) : Prop :=
  ∀ w, Relation.ReflTransGen Part w v → w.HasPart lax

variable {lax : Prop}

theorem whole_iff {v : Value} :
    Whole lax v ↔ v.HasPart lax ∧ ∀ w, Part w v → Whole lax w := by
  constructor
  · intro h
    exact ⟨h v .refl, fun w part u inside => h u (inside.tail part)⟩
  · rintro ⟨here, parts⟩ u inside
    rcases inside.cases_tail with rfl | ⟨w, inside, part⟩
    · exact here
    · exact parts w part u inside

theorem Whole.of_part {v w : Value} (h : Whole lax v) (part : Part w v) : Whole lax w :=
  (whole_iff.1 h).2 w part

theorem whole_of_isAtom {v : Value} (h : v.IsAtom) : Whole lax v := by
  refine whole_iff.2 ⟨?_, fun w part => ?_⟩
  · cases v with
    | entity | grant | origin | record => cases h
    | _ => trivial
  · cases part <;> cases h

theorem whole_null : Whole lax .null := whole_of_isAtom trivial

theorem whole_text (s : String) : Whole lax (.text s) := whole_of_isAtom trivial

theorem whole_list {items : List Value} (h : ∀ v ∈ items, Whole lax v) :
    Whole lax (.list items) := by
  refine whole_iff.2 ⟨trivial, fun w part => ?_⟩
  cases part with
  | item hw => exact h w hw

theorem whole_map {es : List (String × Value)} (h : ∀ e ∈ es, Whole lax e.2) :
    Whole lax (.map es) := by
  refine whole_iff.2 ⟨trivial, fun w part => ?_⟩
  cases part with
  | entry he => exact h _ he

theorem whole_keyed {es : List (Value × Value)} (keys : ∀ e ∈ es, Whole lax e.1)
    (values : ∀ e ∈ es, Whole lax e.2) : Whole lax (.keyed es) := by
  refine whole_iff.2 ⟨trivial, fun w part => ?_⟩
  cases part with
  | key he => exact keys _ he
  | keyedEntry he => exact values _ he

theorem whole_ofList? {items? : Option (List Value)}
    (h : ∀ items, items? = some items → ∀ v ∈ items, Whole lax v) : Whole lax (ofList? items?) := by
  cases items? with
  | none => exact whole_null
  | some items => exact whole_list (h items rfl)

theorem whole_entity {e : Entity Value} (there : (Value.entity e).HasPart lax)
    (h : Whole lax e.part) : Whole lax (.entity e) := by
  refine whole_iff.2 ⟨there, fun w part => ?_⟩
  cases part with
  | entity => exact h

theorem whole_grant {g : Grant Value} (some : g.entity ≠ .null) (h : Whole lax g.entity) :
    Whole lax (.grant g) := by
  refine whole_iff.2 ⟨some, fun w part => ?_⟩
  cases part with
  | grant => exact h

theorem whole_origin {o : Origin Value} (some : o.value ≠ .null) (h : Whole lax o.value) :
    Whole lax (.origin o) := by
  refine whole_iff.2 ⟨some, fun w part => ?_⟩
  cases part with
  | origin => exact h

theorem whole_rule {r : CorsRule Value} (h : ∀ f, Whole lax (r.get f)) : Whole lax (.rule r) := by
  refine whole_iff.2 ⟨trivial, fun w part => ?_⟩
  cases part with
  | rule _ f => exact h f

/-! ### Going through a whole value -/

theorem whole_of_items {v : Value} (h : Whole lax v) {items : List Value}
    (hv : v.items = .ok items) : ∀ w ∈ items, Whole lax w := by
  intro w hw
  cases v with
  | list xs =>
    cases hv
    exact h.of_part (.item hw)
  | text s =>
    cases hv
    obtain ⟨c, -, rfl⟩ := List.mem_map.1 hw
    exact whole_text _
  | map es =>
    cases hv
    obtain ⟨e, -, rfl⟩ := List.mem_map.1 hw
    exact whole_text _
  | keyed es =>
    cases hv
    obtain ⟨e, he, rfl⟩ := List.mem_map.1 hw
    exact h.of_part (.key he)
  | _ => cases hv

theorem whole_valueAt? {es : List (String × Value)} (h : Whole lax (.map es)) (key : String) :
    Whole lax ((valueAt? key es).getD .null) := by
  cases hv : valueAt? key es with
  | none => exact whole_null
  | some v => exact h.of_part (.entry (mem_of_valueAt? hv))

theorem mem_of_valueAtText? {key : String} {v : Value} {es : List (Value × Value)}
    (h : valueAtText? key es = some v) : ∃ e ∈ es, e.2 = v := by
  induction es with
  | nil => cases h
  | cons e rest ih =>
    have later : valueAtText? key rest = some v → ∃ e' ∈ e :: rest, e'.2 = v := by
      intro h
      obtain ⟨e', he', found⟩ := ih h
      exact ⟨e', List.mem_cons_of_mem _ he', found⟩
    obtain ⟨k, w⟩ := e
    cases k with
    | text s =>
      rw [valueAtText?] at h
      split at h
      · cases h
        exact ⟨_, List.mem_cons_self, rfl⟩
      · exact later h
    | _ => exact later h

theorem whole_of_field {v w : Value} {key : String} (h : Whole lax v)
    (hv : v.field key = .ok w) : Whole lax w := by
  cases v with
  | map es =>
    cases hv
    exact whole_valueAt? h key
  | keyed es =>
    cases hv
    cases hw : valueAtText? key es with
    | none => exact whole_null
    | some w =>
      obtain ⟨e, he, rfl⟩ := mem_of_valueAtText? hw
      exact h.of_part (.keyedEntry he)
  | _ => cases hv

theorem whole_sequence? {v : Value} (h : Whole lax v) {items? : Option (List Value)}
    (hv : Resource.sequence? v = .ok items?) : Whole lax (ofList? items?) := by
  refine whole_ofList? ?_
  rintro items rfl
  simp only [Resource.sequence?] at hv
  split at hv
  · cases hv
  · obtain ⟨_, hitems, same⟩ := Result.map_eq_ok_iff.1 hv
    cases same
    exact whole_of_items h hitems

/-! ### Making a map of whole values -/

/-- Are the keys and the values of the entries whole? -/
def WholeEntries (lax : Prop) (es : List (Value × Value)) : Prop :=
  ∀ e ∈ es, Whole lax e.1 ∧ Whole lax e.2

theorem wholeEntries_putKeyed {key value : Value} (hk : Whole lax key) (hv : Whole lax value) :
    ∀ {es fs : List (Value × Value)}, WholeEntries lax es → putKeyed key value es = .ok fs →
      WholeEntries lax fs := by
  intro es
  induction es with
  | nil =>
    intro fs _ h
    cases h
    exact List.forall_mem_singleton.2 ⟨hk, hv⟩
  | cons e rest ih =>
    intro fs whole h
    obtain ⟨here, there⟩ := List.forall_mem_cons.1 whole
    obtain ⟨same, -, h⟩ := Result.bind_eq_ok_iff.1 h
    split at h
    · cases h
      exact List.forall_mem_cons.2 ⟨⟨here.1, hv⟩, there⟩
    · obtain ⟨tail, htail, h⟩ := Result.bind_eq_ok_iff.1 h
      cases h
      exact List.forall_mem_cons.2 ⟨here, ih there htail⟩

theorem wholeEntries_putItem {es fs : List (Value × Value)} {item : Value}
    (whole : WholeEntries lax es) (hitem : Whole lax item) (h : putItem es item = .ok fs) :
    WholeEntries lax fs := by
  obtain ⟨pair, hpair, h⟩ := Result.bind_eq_ok_iff.1 h
  have parts := whole_of_items hitem hpair
  split at h
  next key value =>
    simp only [putPair] at h
    split at h
    · cases h
    · exact wholeEntries_putKeyed (parts key List.mem_cons_self)
        (parts value (List.mem_cons_of_mem _ List.mem_cons_self)) whole h
  next => cases h

theorem wholeEntries_foldlM {items : List Value} :
    ∀ {es fs : List (Value × Value)}, (∀ v ∈ items, Whole lax v) → WholeEntries lax es →
      items.foldlM putItem es = .ok fs → WholeEntries lax fs := by
  induction items with
  | nil =>
    intro es fs _ whole h
    cases h
    exact whole
  | cons v rest ih =>
    intro es fs each whole h
    obtain ⟨first, others⟩ := List.forall_mem_cons.1 each
    rw [List.foldlM_cons] at h
    obtain ⟨next, hnext, h⟩ := Result.bind_eq_ok_iff.1 h
    exact ih others (wholeEntries_putItem whole first hnext) h

theorem mem_of_textEntries {key : String} {v : Value} :
    ∀ {es : List (Value × Value)} {texts : List (String × Value)},
      es.mapM textEntry? = some texts → (key, v) ∈ texts → (.text key, v) ∈ es := by
  intro es
  induction es with
  | nil =>
    intro texts h hmem
    cases h
    cases hmem
  | cons e rest ih =>
    intro texts h hmem
    rw [List.mapM_cons] at h
    obtain ⟨first, hfirst, h⟩ := Option.bind_eq_some_iff.1 h
    obtain ⟨tail, htail, h⟩ := Option.bind_eq_some_iff.1 h
    cases h
    rcases List.mem_cons.1 hmem with rfl | hmem
    · obtain ⟨k, w⟩ := e
      cases k with
      | text s =>
        cases hfirst
        exact List.mem_cons_self
      | _ => cases hfirst
    · exact List.mem_cons_of_mem _ (ih htail hmem)

theorem whole_ofEntries {es : List (Value × Value)} (h : WholeEntries lax es) :
    Whole lax (ofEntries es) := by
  unfold ofEntries
  split
  next texts htexts =>
    exact whole_map fun e he => (h _ (mem_of_textEntries htexts he)).2
  next => exact whole_keyed (fun e he => (h e he).1) fun e he => (h e he).2

theorem whole_toMap {v w : Value} (h : Whole lax v) (hv : v.toMap = .ok w) : Whole lax w := by
  unfold toMap at hv
  split at hv
  next =>
    cases hv
    exact h
  next =>
    cases hv
    exact h
  next =>
    obtain ⟨items, hitems, hv⟩ := Result.bind_eq_ok_iff.1 hv
    obtain ⟨es, hes, hv⟩ := Result.bind_eq_ok_iff.1 hv
    cases hv
    have none : WholeEntries lax [] := by
      intro e he
      cases he
    exact whole_ofEntries (wholeEntries_foldlM (whole_of_items h hitems) none hes)

theorem whole_mapValue {v w : Value} (h : Whole lax v) (hv : Resource.mapValue v = .ok w) :
    Whole lax w := by
  simp only [Resource.mapValue] at hv
  split at hv
  · cases hv
    exact whole_null
  · exact whole_toMap h hv

theorem whole_clearable {v : Value} (h : Whole lax v) : Whole lax (Resource.clearable v) := by
  unfold Resource.clearable
  split
  · exact whole_of_isAtom trivial
  · exact h

end Value

end StorageMetadata
