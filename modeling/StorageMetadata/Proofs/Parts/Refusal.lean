import StorageMetadata.Proofs.Parts.Missing
import StorageMetadata.Proofs.Parts.Obtained

/-!
# Refusing to make something of nothing

Whoever gives nothing where a part is mandatory is told so: the constructors, the factories, the
calls on builders and the decoders all fail, and the failure names the part, unless a decoder has
failed at something else before.  With what `Obtained` lists of the ways to come by a value, no value
lacks a mandatory part, and none inside another does (`mandatory_parts`).

The constructor of projects is the exception.  The word for nothing becomes part of the entity's
text, and with it of a grant (`grant_of_nothing`).
-/

namespace StorageMetadata

open StorageMetadata.Resource StorageMetadata.Value StorageMetadata.Result Filling

namespace RecordType

/-- The first mandatory part that a resource lacks. -/
def missing? : RecordType → List (String × Value) → Option String
  | object => Object.missing?
  | bucket => Bucket.missing?
  | rule => CorsRule.missing?

/-- Can the resource be read, but for what is missing? -/
def Legible : RecordType → List (String × Value) → Prop
  | object => Object.Legible
  | bucket => Bucket.Legible
  | rule => CorsRule.Legible

end RecordType

/-- Do the constructors and the decoder of what is in access lists and rules refuse what lacks a
part?  Projects are left out. -/
structure MakersRefuse : Prop where
  entity : ∀ make : Value → Entity Value,
    Entity.ofPart make .null = .error (.missingField "value")
  grantEntity : ∀ role, Grant.ofParts .null role = .error (.missingField "entity")
  grantRole : ∀ entity, entity ≠ .null →
    Grant.ofParts entity none = .error (.missingField "role")
  grant : ∀ es part, Grant.missing? es = some part →
    (Grant.decode (.map es)).result = .error (.missingField part)
  origin : Origin.of .null = .error (.missingField "value")
  unsharedOrigin : Origin.unshared .null = .error (.missingField "value")

/-- Do the ways to a record of the type refuse what lacks a part, and for that part? -/
structure RecordType.Refuses (t : RecordType) : Prop where
  fill : ∀ f ∈ t.builder.required, ∀ d,
    (t.builder.fill f .null).after d = (.error (.missingField (t.builder.label f)), d)
  finish : ∀ d f, (t.builder.required.find? fun f => (t.builder.get d f).isNull) = some f →
    t.builder.finish.after d = (.error (.missingField (t.builder.label f)), d)
  ofFields : ∀ given f, (t.builder.required.find? fun f => (given f).isNull) = some f →
    t.ofFields given = .error (.missingField (t.builder.label f))
  decode : ∀ es part, t.missing? es = some part → ∃ f, t.decode (.map es) = .error f
  decodeLegible : ∀ es, t.Legible es →
    failure? (t.decode (.map es)) = (t.missing? es).map fun part => .missingField part

/-- Do the factories of drafts and records refuse what lacks a part? -/
structure FactoriesRefuse : Prop where
  bucket : ∀ name, Object.draft .null name = .error (.missingField "bucket") ∧
    Object.of .null name = .error (.missingField "bucket")
  name : ∀ bucket, Object.bucketName bucket ≠ .null →
    Object.draft bucket .null = .error (.missingField "name") ∧
      Object.of bucket .null = .error (.missingField "name")
  bucketName : Bucket.draft .null = .error (.missingField "name") ∧
    Bucket.of .null = .error (.missingField "name")

theorem makersRefuse : MakersRefuse where
  entity _ := rfl
  grantEntity _ := rfl
  grantRole entity some := by
    rw [Grant.ofParts, if_neg some]
  grant es part lacks := by
    have refuses := Grant.refusesLack es
    have legible : Grant.Legible es := by
      intro none
      rw [none] at lacks
      cases lacks
    rw [← failure?_eq_some_iff, refuses.told legible, lacks]
    rfl
  origin := rfl
  unsharedOrigin := rfl

theorem RecordType.refusesLack (t : RecordType) (es : List (String × Value)) :
    RefusesLack (t.decode (.map es)) (t.missing? es) (t.Legible es) := by
  cases t with
  | object => exact Object.refusesLack es
  | bucket => exact Bucket.refusesLack es
  | rule => exact CorsRule.refusesLack es

theorem Object.ofFields_eq_error {given : Field → Value} {f : Field}
    (first : ([.bucket, .name] : List Field).find? (fun f => (given f).isNull) = some f) :
    Draft.ofFields given = .error (.missingField f.label) := by
  by_cases hb : given .bucket = .null
  · simp only [List.find?_cons, isNull_eq_true_iff.2 hb] at first
    cases first
    simp only [Draft.ofFields, if_pos hb]
    rfl
  · by_cases hn : given .name = .null
    · simp only [List.find?_cons, isNull_eq_false_iff.2 hb, isNull_eq_true_iff.2 hn] at first
      cases first
      simp only [Draft.ofFields, if_neg hb, if_pos hn]
      rfl
    · simp [hb, hn] at first

theorem Bucket.ofFields_eq_error {given : Field → Value} {f : Field}
    (first : ([.name] : List Field).find? (fun f => (given f).isNull) = some f) :
    Draft.ofFields given = .error (.missingField f.label) := by
  by_cases hn : given .name = .null
  · simp only [List.find?_cons, isNull_eq_true_iff.2 hn] at first
    cases first
    simp only [Draft.ofFields, if_pos hn]
    rfl
  · simp [hn] at first

theorem RecordType.refuses (t : RecordType) : t.Refuses where
  fill f hf d := by
    have refused : t.builder.stored f .null = .error (.missingField (t.builder.label f)) := by
      cases t with
      | object =>
        rcases List.mem_cons.1 hf with rfl | hf
        · rfl
        · rcases List.mem_singleton.1 hf with rfl
          rfl
      | bucket =>
        rcases List.mem_singleton.1 hf with rfl
        rfl
      | rule => cases hf
    have puts := t.lawful.puts f .null d
    rw [refused] at puts
    exact puts
  finish d f first := by
    have finishes := t.lawful.finishes d
    rw [Builder.Finishes, first] at finishes
    exact finishes
  ofFields given f first := by
    cases t with
    | object =>
      have refused := Object.ofFields_eq_error first
      show (Object.Draft.ofFields given >>= Object.Draft.build) = _
      rw [refused]
      rfl
    | bucket =>
      have refused := Bucket.ofFields_eq_error first
      show (Bucket.Draft.ofFields given >>= Bucket.Draft.build) = _
      rw [refused]
      rfl
    | rule => cases first
  decode es := (t.refusesLack es).refused
  decodeLegible es := (t.refusesLack es).told

theorem factoriesRefuse : FactoriesRefuse where
  bucket name := ⟨rfl, rfl⟩
  name bucket some := by
    have drafted : Object.draft bucket .null = .error (.missingField "name") := by
      have set : ({} : Object.Draft).set .bucket (Object.bucketName bucket) =
          .ok { bucket := Object.bucketName bucket } := by
        simp only [Object.Draft.set, Object.Draft.fill, if_neg some]
        rfl
      rw [Object.draft, set]
      rfl
    refine ⟨drafted, ?_⟩
    rw [Object.of, drafted]
    rfl
  bucketName := ⟨rfl, rfl⟩

/-! ### Owners -/

/-- Does a resource name no owner, or one without an entity? -/
def NamesNoOwner (es : List (String × Value)) : Prop :=
  (valueAt? "owner" es).getD .null = .null ∨
    ∃ owner, valueAt? "owner" es = some (.map owner) ∧ (valueAt? "entity" owner).getD .null = .null

/-- Is an owner without an entity no owner? -/
structure OwnersMayLack : Prop where
  read : ∀ (t : RecordType) (es : List (String × Value)), NamesNoOwner es →
    t.decode (.map es) = t.decode (.map (putEntry "owner" .null es))
  object : ∀ es o, NamesNoOwner es → (Object.decode (.map es)).result = .ok o → o.owner = .null
  bucket : ∀ es b, NamesNoOwner es → (Bucket.decode (.map es)).result = .ok b → b.owner = .null

theorem NamesNoOwner.read_eq {es : List (String × Value)} (h : NamesNoOwner es) :
    (Entity.form.within "entity").read (valueAt? "owner" es) = .ok .null := by
  simp only [Form.within]
  split
  next => rfl
  next some =>
    obtain none | ⟨owner, there, none⟩ := h
    · exact absurd none some
    · rw [there]
      show Entity.form.optional.read (Option.some ((valueAt? "entity" owner).getD .null)) = _
      rw [none]
      rfl

/-- Nothing but the owner is read at its key. -/
theorem RecordType.decode_putOwner (t : RecordType) {es : List (String × Value)}
    (h : NamesNoOwner es) :
    t.decode (.map es) = t.decode (.map (putEntry "owner" .null es)) := by
  have owner : (Entity.form.within "entity").read (valueAt? "owner" es) =
      (Entity.form.within "entity").read (valueAt? "owner" (putEntry "owner" .null es)) := by
    rw [h.read_eq, valueAt?_putEntry, if_pos rfl]
    rfl
  have other : ∀ key, "owner" ≠ key →
      valueAt? key es = valueAt? key (putEntry "owner" .null es) := by
    intro key ne
    rw [valueAt?_putEntry, if_neg ne]
  cases t with
  | object =>
    refine Object.decode_congr fun f => ?_
    cases f with
    | owner => exact owner
    | _ => rw [← other _ (by decide)]
  | bucket =>
    refine Bucket.decode_congr fun k => ?_
    cases k with
    | owner => exact owner
    | _ => rw [← other _ (by decide)]
  | rule =>
    refine CorsRule.decode_congr fun f => ?_
    cases f <;> rw [← other _ (by decide)]

theorem ownersMayLack : OwnersMayLack where
  read t es h := t.decode_putOwner h
  object es o h read := by
    have owner := Object.decode_map_eq_ok_iff.1 read .owner
    exact Except.ok.inj (owner.symm.trans h.read_eq)
  bucket es b h read := by
    have owner := Bucket.decode_map_eq_ok_iff.1 read .owner
    exact Except.ok.inj (owner.symm.trans h.read_eq)

/-! ### Projects -/

/-- Is a project of nothing made like any other, and are all the others whole that are made of
something whole? -/
structure ProjectsAreMade (lax : Prop) : Prop where
  ofNothing : ∀ team, Entity.ofProject team .null = .ok (.project team .null)
  whole_iff : ∀ team id e, Entity.ofProject team id = .ok e →
    (Value.Whole lax (.entity e) ↔ (id = .null → lax) ∧ id.Whole lax)

theorem projectsAreMade {lax : Prop} : ProjectsAreMade lax where
  ofNothing _ := rfl
  whole_iff team id e made := by
    constructor
    · intro whole
      obtain ⟨_, -, made⟩ := bind_eq_ok_iff.1 made
      cases made
      exact ⟨(Value.whole_iff.1 whole).1, whole.of_part (.entity (.project team id))⟩
    · rintro ⟨named, whole⟩
      exact Entity.whole_of_ofProject named whole made

/-! ### No mandatory part is missing -/

/-- **Nothing is made without its mandatory parts**, and what is refused for that is told, unless a
project is made of nothing. -/
theorem mandatory_parts (lax : Prop) (t : RecordType) :
    (∀ item, Obtained lax item → item.Whole lax) ∧ ProjectsAreMade lax ∧ MakersRefuse ∧
      t.Refuses ∧ FactoriesRefuse ∧ OwnersMayLack :=
  ⟨fun _ => whole_of_obtained, projectsAreMade, makersRefuse, t.refuses, factoriesRefuse,
    ownersMayLack⟩

/-- The owners of a project. -/
def trustees : Entity Value := .project .owners (.text "p-1")

/-- An object whose access list lets the owners of a project read it. -/
def deedFields : Object.Field → Value
  | .bucket => .text "b"
  | .name => .text "n"
  | .acl => .list [.grant { entity := .entity trustees, role := .reader }]
  | _ => .null

/-- The resource of something without an owner. -/
def ownerless : List (String × Value) :=
  [("bucket", .text "b"), ("name", .text "n"), ("owner", .map [("entity", .null)])]

/-- The resource of an object that nobody may read. -/
def unsigned : List (String × Value) :=
  ownerless ++ [("acl", .list [.map [("entity", .null), ("role", .text "READER")]])]

theorem obtained_deedFields (f : Object.Field) : Obtained False (.value (deedFields f)) := by
  cases f with
  | bucket | name => exact .atom trivial
  | acl =>
    have named : Value.text "p-1" = .null → False := Value.noConfusion
    have entity : Obtained False (.value (.entity trustees)) := .project named (.atom trivial) rfl
    have made : Grant.ofParts (.entity trustees) (some .reader) = .ok _ := rfl
    refine .list fun v hv => ?_
    rcases List.mem_singleton.1 hv with rfl
    exact .grant entity made
  | _ => exact .atom trivial

theorem legible_unsigned : Object.Legible unsigned := by
  have grant : Grant.Legible [("entity", .null), ("role", .text "READER")] := by
    intro none
    cases none
  refine legibleUntil_of_forall fun f _ => ?_
  cases f with
  | bucket | name => trivial
  | acl => exact ⟨⟨_, rfl, grant⟩, fun none => nomatch none⟩
  | _ => exact ⟨_, rfl⟩

theorem mandatory_parts_deed :
    (∃ o, RecordType.object.ofFields deedFields = .ok o ∧ (Item.record .object o).Whole False) ∧
    Value.Whole False (.entity trustees) ∧
    Grant.ofParts (.entity trustees) none = .error (.missingField "role") ∧
    (Grant.decode (.map [("entity", .text "allUsers"), ("role", .null)])).result =
      .error (.missingField "role") ∧
    (Object.builder.fill .name .null).after {} = (.error (.missingField "name"), {}) ∧
    Bucket.builder.finish.after {} = (.error (.missingField "name"), {}) ∧
    RecordType.object.ofFields (fun _ => .null) = .error (.missingField "bucket") ∧
    (∃ f, (Object.decode (.map unsigned)).result = .error f) ∧
    failure? (Object.decode (.map unsigned)).result = some (.missingField "entity") ∧
    Object.of (.text "b") .null = .error (.missingField "name") ∧
    (∃ o, (Object.decode (.map ownerless)).result = .ok o ∧ o.owner = .null) ∧
    ∃ b, (Bucket.decode (.map ownerless)).result = .ok b ∧ b.owner = .null := by
  obtain ⟨whole, projects, makers, objects, factories, owners⟩ := mandatory_parts False .object
  obtain ⟨-, -, -, buckets, -, -⟩ := mandatory_parts False .bucket
  have nobody : NamesNoOwner ownerless := .inr ⟨_, rfl, rfl⟩
  refine ⟨⟨_, rfl, whole _ (.given obtained_deedFields rfl)⟩, ?_, ?_, ?_, ?_, ?_, ?_, ?_, ?_, ?_,
    ⟨_, rfl, ?_⟩, ⟨_, rfl, ?_⟩⟩
  · exact (projects.whole_iff .owners (.text "p-1") _ rfl).2 ⟨Value.noConfusion, whole_text _⟩
  · exact makers.grantRole _ Value.noConfusion
  · exact makers.grant _ _ rfl
  · exact objects.fill .name (List.mem_cons_of_mem _ List.mem_cons_self) _
  · exact buckets.finish _ .name rfl
  · exact objects.ofFields _ .bucket rfl
  · exact objects.decode _ "entity" rfl
  · exact objects.decodeLegible _ legible_unsigned
  · exact (factories.name (.text "b") Value.noConfusion).2
  · exact owners.object ownerless _ nobody rfl
  · exact owners.bucket ownerless _ nobody rfl

/-- **A project made of nothing** is an entity like others, and a grant to it is written with the
word for nothing in its text. -/
theorem grant_of_nothing :
    ∃ e g, Entity.ofProject .owners .null = .ok e ∧ Obtained True (.value (.entity e)) ∧
      Grant.ofParts (.entity e) (some .reader) = .ok g ∧
      g.encode = .ok (.map [("entity", .text "project-owners-None"), ("role", .text "READER")]) ∧
      ¬Value.Whole False (.grant g) := by
  have nothing : Obtained True (.value .null) := .atom trivial
  refine ⟨_, _, rfl, .project (fun _ => trivial) nothing rfl, rfl, rfl, ?_⟩
  intro whole
  exact (whole_iff.1 (whole.of_part (.grant _))).1 rfl

end StorageMetadata
