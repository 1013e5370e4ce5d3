import StorageMetadata.Access.Resource
import StorageMetadata.Proofs.Access.Entity
import StorageMetadata.Proofs.Resource.Field
import StorageMetadata.Proofs.Value.Equality

/-!
# Grants and owners in a resource

An entity is a form: it is written as its spelling, and the spelling that was read is written again
as that of the entity it was read as (`Value.respelled`).  From it come the forms of what a resource
says about access: a grant is a map of a spelling and the name of a role, an access list is a list
of grants, and the owner is an entity in a section of its own.  All of them are lawful.
-/

namespace StorageMetadata

open StorageMetadata.Resource

/-! ### Entities -/

namespace Value

/-- Is the value an entity with texts for its parts, the one that its spelling is read as? -/
def IsEntity (v : Value) : Prop := ∃ e : Entity String, v = .entity (e.map .text) ∧ e.Settled

/-- Is the value a grant to such an entity? -/
def IsGrant (v : Value) : Prop :=
  ∃ (e : Entity String) (role : Role), v = .grant ⟨.entity (e.map .text), role⟩ ∧ e.Settled

/-- The spelling of the entity that a text is read as. -/
def respelled : Value → Value
  | .text s => .text (Entity.ofSpelling s).spelling
  | v => v

end Value

namespace Entity

open StorageMetadata.Value

/-- Only a text is read as an entity, and every text is. -/
theorem decode_eq_ok_iff {v : Value} {e : Entity Value} :
    (decode v).result = .ok e ↔ ∃ s, v = .text s ∧ e = (ofSpelling s).map .text := by
  constructor
  · intro h
    cases v with
    | text s =>
      refine ⟨s, rfl, ?_⟩
      unfold ofSpelling
      simp only [decode] at h
      cases hs : ofSpelling? s with
      | none => rw [hs] at h; cases h; rfl
      | some known => rw [hs] at h; cases h; rfl
    | _ => cases h
  · rintro ⟨s, rfl, rfl⟩
    unfold ofSpelling
    simp only [decode]
    cases ofSpelling? s <;> rfl

/-- An entity, written as its spelling. -/
def form : Form where
  decode v := (decode v).result.map .entity
  encode := Value.encode
  Typed := IsEntity
  Admits := IsText
  normal := respelled

theorem lawful_form : form.Lawful where
  ne_null v := by
    rintro ⟨e, rfl, -⟩
    exact Value.noConfusion
  decode_encode v := by
    rintro ⟨e, rfl, settled⟩
    refine ⟨.text e.spelling, encode_map_text e, Value.noConfusion, ?_⟩
    refine Result.map_eq_ok_iff.2 ⟨e.map .text, ?_, rfl⟩
    exact decode_eq_ok_iff.2 ⟨e.spelling, rfl, by rw [ofSpelling_spelling settled]⟩
  encode_decode w v _ hr _ := by
    obtain ⟨e, he, rfl⟩ := Result.map_eq_ok_iff.1 hr
    obtain ⟨s, rfl, rfl⟩ := decode_eq_ok_iff.1 he
    exact ⟨⟨ofSpelling s, rfl, settled_ofSpelling s⟩, encode_map_text (ofSpelling s)⟩

/-! ### Owners -/

/-- An owner in a resource with nothing but its entity, spelled again. -/
def normalOwner : Option Value → Option Value
  | some (.map es) =>
    ((held (valueAt? "entity" es)).map respelled).map fun v => .map [("entity", v)]
  | _ => none

theorem within_normal (s : Option Value) :
    (form.within "entity").normal s = normalOwner s := by
  rcases s with _ | v
  · rfl
  · cases v <;> rfl

/-- The owner is an entity in a section of its own. -/
theorem decodeOwner_map (es : List (String × Value)) :
    (decodeOwner (.map es)).result = (form.within "entity").read (valueAt? "owner" es) := by
  simp only [decodeOwner, Traced.result_bind, Traced.result_liftM, Traced.result_ite,
    Traced.result_pure]
  show (if (valueAt? "owner" es).getD .null = .null then _ else _) = _
  simp only [Form.within]
  split
  next => rfl
  next =>
    refine bind_congr fun spelling => ?_
    simp only [Form.optional, Option.getD_some]
    split
    next => rfl
    next => exact Result.bind_pure_eq_map _ _

theorem encodeOwner_map_present (v : Value) :
    (encodeOwner v).map present = (form.within "entity").write v := by
  simp only [encodeOwner, Form.within, Form.optional]
  split
  next => rfl
  next =>
    show (_ : Result Value).map present = ((v.encode).map _).map _
    cases v.encode <;> rfl

end Entity

/-! ### Grants -/

namespace Role

open StorageMetadata.Value

/-- A role is read from its name alone. -/
theorem read_eq_ok_iff {v : Value} {r : Role} : read v = .ok r ↔ v = .text r.name := by
  constructor
  · intro h
    cases v with
    | text s =>
      simp only [read] at h
      cases hs : ofName? s with
      | none => rw [hs] at h; cases h
      | some found =>
        rw [hs] at h
        cases h
        rw [ofName?_eq_some_iff.1 hs]
    | _ =>
      simp only [read] at h
      split at h <;> cases h
  · rintro rfl
    simp only [read, ofName?_name]

end Role

namespace Grant

open StorageMetadata.Value

/-- Both parts are looked for before either is read. -/
theorem result_decode_map (es : List (String × Value)) :
    (decode (.map es)).result =
      (Codec.required "entity").read (valueAt? "entity" es) >>= fun entity =>
      (Codec.required "role").read (valueAt? "role" es) >>= fun role =>
      (Entity.decode entity).result >>= fun entity => Role.read role >>= fun role =>
      .ok { entity := .entity entity, role } := by
  simp only [decode, Traced.result_bind, Traced.result_liftM, Traced.result_pure, readRequired_map]

/-- A grant is read from a map with the spelling of an entity and the name of a role. -/
theorem decode_map_eq_ok_iff {es : List (String × Value)} {g : Grant Value} :
    (decode (.map es)).result = .ok g ↔
      ∃ s role, valueAt? "entity" es = some (.text s) ∧
        valueAt? "role" es = some (.text role.name) ∧
        g = ⟨.entity ((Entity.ofSpelling s).map .text), role⟩ := by
  simp only [result_decode_map, Result.bind_eq_ok_iff, required_read_eq_ok_iff,
    Entity.decode_eq_ok_iff, Role.read_eq_ok_iff]
  constructor
  · rintro ⟨_, ⟨hs, -⟩, _, ⟨hr, -⟩, _, ⟨s, rfl, rfl⟩, role, rfl, hg⟩
    cases hg
    exact ⟨s, role, hs, hr, rfl⟩
  · rintro ⟨s, role, hs, hr, rfl⟩
    exact ⟨_, ⟨hs, Value.noConfusion⟩, _, ⟨hr, Value.noConfusion⟩, _, ⟨s, rfl, rfl⟩, role, rfl, rfl⟩

/-- A grant in a resource with its entity spelled again, and with nothing but its two texts. -/
def normal : Value → Value
  | .map es => .map [("entity", respelled ((valueAt? "entity" es).getD .null)),
      ("role", (valueAt? "role" es).getD .null)]
  | w => w

/-- A grant, written as a map of two texts. -/
def form : Form where
  decode v := (decode v).result.map .grant
  encode := encodeItem
  Typed := IsGrant
  Admits := IsMapOf fun _ => True
  normal := normal

theorem lawful_form : form.Lawful where
  ne_null v := by
    rintro ⟨e, role, rfl, -⟩
    exact Value.noConfusion
  decode_encode v := by
    rintro ⟨e, role, rfl, settled⟩
    refine ⟨.map [("entity", .text e.spelling), ("role", .text role.name)], ?_,
      Value.noConfusion, ?_⟩
    · simp only [form, encodeItem, encode, Value.encode, Entity.encode_map_text]
      rfl
    · refine Result.map_eq_ok_iff.2
        ⟨_, decode_map_eq_ok_iff.2 ⟨e.spelling, role, rfl, rfl, rfl⟩, ?_⟩
      rw [Entity.ofSpelling_spelling settled]
  encode_decode w v hw hr _ := by
    obtain ⟨g, hg, rfl⟩ := Result.map_eq_ok_iff.1 hr
    obtain ⟨es, rfl, -⟩ := hw
    obtain ⟨s, role, hs, hrole, rfl⟩ := decode_map_eq_ok_iff.1 hg
    refine ⟨⟨Entity.ofSpelling s, role, rfl, Entity.settled_ofSpelling s⟩, ?_⟩
    simp only [form, normal, encodeItem, encode, Value.encode, Entity.encode_map_text, hs, hrole]
    rfl

theorem lawful_list : form.list.Lawful := Form.lawful_list lawful_form fun _ => trivial

/-- An access list is read grant by grant. -/
theorem decodeAll_map (key : String) (es : List (String × Value)) :
    (decodeAll key (.map es)).result = form.readItems (valueAt? key es) :=
  Form.result_readItems _ fun _ => Traced.result_bind_pure _ _

theorem encodeAll_map_present (items : Option (List Value)) :
    (encodeAll items).map present = form.list.optional.write (ofList? items) :=
  form.items_map_present items

end Grant

/-! ### Entities and grants stand for the same as themselves -/

namespace Value

theorem IsEntity.same_self {v : Value} (h : v.IsEntity) : same v v = .ok true := by
  obtain ⟨e, rfl, -⟩ := h
  have text : ∀ s : String, same (.text s) (.text s) = .ok true :=
    fun s => IsText.same_self ⟨s, rfl⟩
  cases e with
  | project team id =>
    show (if team = team ∧ display (.text id) = display (.text id) then _ else _) = _
    rw [if_pos ⟨rfl, rfl⟩, text]
  | _ => exact text _

theorem IsGrant.same_self {v : Value} (h : v.IsGrant) : same v v = .ok true := by
  obtain ⟨e, role, rfl, settled⟩ := h
  have entity : same (.entity (e.map .text)) (.entity (e.map .text)) = .ok true :=
    IsEntity.same_self ⟨e, rfl, settled⟩
  show (do return (← same _ _) && decide (role = role)) = _
  rw [entity, decide_eq_true rfl]
  rfl

end Value

end StorageMetadata
