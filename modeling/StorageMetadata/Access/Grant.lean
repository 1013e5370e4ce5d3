import StorageMetadata.Access.Role

/-!
# Grants

An entry of an access list: an entity is given a role.
-/

namespace StorageMetadata

/-- An entity of type `α` with the role that it is given. -/
structure Grant (α : Type) where
  entity : α
  role : Role
  deriving DecidableEq, Repr

end StorageMetadata
