import StorageMetadata.CrossOrigin.Resource

/-!
# Grants in a resource

An entity is a text in a resource, and a grant is a map with that text and the name of the role.
The access lists of objects and of buckets have entries of the same form.
-/

namespace StorageMetadata

open StorageMetadata.Resource

namespace Entity

/-- An entity with a mandatory part. -/
def ofPart (make : Value → Entity Value) (v : Value) : Result (Entity Value) :=
  if v = .null then .error (.missingField "value") else .ok (make v)

/-- A team of a project.  The identifier of the project becomes part of the entity's text. -/
def ofProject (team : Team) (id : Value) : Result (Entity Value) := do
  let _ ← id.shown
  return .project team id

/-- An entity in a resource.  An entity that is kept as it is spelled is its spelling, whatever
that is. -/
def encode : Entity Value → Result Value
  | .raw v => .ok v
  | e => (Value.entity e).shown.map .text

/-- The entity that a value of a resource spells.  A remark is made if it has no known shape. -/
def decode (v : Value) : Traced (Entity Value) :=
  match v with
  | .text s => match ofSpelling? s with
    | some e => pure (e.map .text)
    | none => do
      Traced.remark (.unrecognizedEntity s)
      return .raw v
  | _ => Traced.lift (fault .unsupported)

/-- An entity whose parts are texts is spelled in a resource. -/
theorem encode_map_text (e : Entity String) : encode (e.map .text) = .ok (.text e.spelling) := by
  cases e <;> rfl

end Entity

/-- The role that a value names.  A value that cannot be a key is not even looked up. -/
def Role.read (v : Value) : Result Role :=
  match v with
  | .text s => match Role.ofName? s with
    | some r => .ok r
    | none => .error (.unknownRole v (some .unknownName))
  | _ =>
    if v.fingerprint?.isNone then fault .mistyped
    else .error (.unknownRole v (some .unknownName))

/-- The team that a value names, without regard to letter case. -/
def Team.read (v : Value) : Result Team :=
  match v with
  | .text s => match Team.ofName? (Text.lower s) with
    | some t => .ok t
    | none => fault .malformed
  | _ => fault .unsupported

namespace Value

/-- A value of the domain as a resource: an entity is its text, a rule and a record are maps. -/
def encode : Value → Result Value
  | .entity e => e.encode
  | .rule r => r.encode
  | .record r => r.resource
  | _ => fault .unsupported

end Value

namespace Grant

/-- A grant with both of its parts. -/
def ofParts (entity : Value) (role : Option Role) : Result (Grant Value) :=
  if entity = .null then .error (.missingField "entity")
  else match role with
    | none => .error (.missingField "role")
    | some role => .ok { entity, role }

/-- A grant as an entry of an access list. -/
def encode (g : Grant Value) : Result Value := do
  return .map [("entity", ← g.entity.encode), ("role", .text g.role.name)]

/-- An item of an access list as an entry; it has to be a grant. -/
def encodeItem : Value → Result Value
  | .grant g => g.encode
  | _ => fault .unsupported

/-- The grant that an entry of an access list stands for. -/
def decode (resource : Value) : Traced (Grant Value) := do
  let entity ← readRequired "entity" resource
  let role ← readRequired "role" resource
  let entity ← Entity.decode entity
  let role ← Role.read role
  return { entity := .entity entity, role }

/-- An access list in a resource. -/
def encodeAll (items : Option (List Value)) : Result Value :=
  match items with
  | none => .ok .null
  | some items => (items.mapM encodeItem).map .list

/-- The access list that a field of a resource holds, if it holds one. -/
def decodeAll (key : String) (resource : Value) : Traced (Option (List Value)) := do
  match ← sequence? (← resource.field key) with
  | none => return none
  | some items => return some (← items.mapM fun v => do return .grant (← decode v))

end Grant

namespace Entity

/-- The owner that a resource names: a missing owner and an owner without an entity are no owner. -/
def decodeOwner (resource : Value) : Traced Value := do
  let owner ← resource.field "owner"
  if owner = .null then return .null
  let spelling ← owner.field "entity"
  if spelling = .null then return .null
  return .entity (← decode spelling)

/-- The entry for the owner of a record. -/
def encodeOwner (owner : Value) : Result Value :=
  if owner = .null then .ok .null else do return .map [("entity", ← owner.encode)]

end Entity

end StorageMetadata
