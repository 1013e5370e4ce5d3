import StorageMetadata.Access.Role
import StorageMetadata.Text.Case

/-!
# Entities

Who a grant is given to: a user, a group or a domain, each by a name of its own, a team of a
project, or something unknown that is kept as it is spelled.  An entity is spelled as one text,

    user-NAME   group-NAME   domain-NAME   project-TEAM-ID,

except that the two users who stand for everybody are spelled without `user-`.  `Entity.ofSpelling?`
recognizes these shapes and no others; in a team's word letter case does not matter.
-/

namespace StorageMetadata

/-- An entity with parts of the type `α`. -/
inductive Entity (α : Type) where
  | user (email : α)
  | group (email : α)
  | domain (domain : α)
  | project (team : Team) (id : α)
  /-- An entity of no known shape, by its spelling. -/
  | raw (spelling : α)
  deriving DecidableEq, Repr

namespace Entity

/-- The entity with every part changed. -/
def map {α β : Type} (f : α → β) : Entity α → Entity β
  | user a => user (f a)
  | group a => group (f a)
  | domain a => domain (f a)
  | project t a => project t (f a)
  | raw a => raw (f a)

/-- The user who stands for everybody. -/
def everybody : String := "allUsers"

/-- The user who stands for everybody with an account. -/
def everybodyKnown : String := "allAuthenticatedUsers"

/-- Does the name stand for everybody, with or without an account? -/
def isPublic (name : String) : Bool := name = everybody || name = everybodyKnown

/-- The spelling of an entity. -/
def spelling : Entity String → String
  | user name => if isPublic name then name else "user-" ++ name
  | group name => "group-" ++ name
  | domain name => "domain-" ++ name
  | project team id => "project-" ++ team.name ++ "-" ++ id
  | raw s => s

/-- What follows `start` in a text that begins with it. -/
def after? (start : String) (s : String) : Option String :=
  (start.toList.isPrefixOf? s.toList).map String.ofList

/-- The team and the identifier in `TEAM-ID`; the identifier may hold dashes. -/
def teamAndId? (s : String) : Option (Team × String) := do
  let word := s.toList.takeWhile (· ≠ '-')
  let rest := s.toList.dropWhile (· ≠ '-')
  guard (rest ≠ [])
  return (← Team.ofName? (Text.lower (String.ofList word)), String.ofList rest.tail)

/-- The entity that a text of a known shape spells. -/
def ofSpelling? (s : String) : Option (Entity String) :=
  if let some name := after? "user-" s then some (.user name)
  else if isPublic s then some (.user s)
  else if let some name := after? "group-" s then some (.group name)
  else if let some name := after? "domain-" s then some (.domain name)
  else if let some rest := after? "project-" s then
    (teamAndId? rest).map fun (team, id) => .project team id
  else none

/-- The entity that a text spells; a text of no known shape is kept. -/
def ofSpelling (s : String) : Entity String := (ofSpelling? s).getD (.raw s)

end Entity

end StorageMetadata
