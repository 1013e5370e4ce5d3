/-!
# Roles and teams

A grant gives one of three roles.  A project has three teams, and a team is named in a grant's
entity by a word of lower-case letters.
-/

namespace StorageMetadata

/-- What a grant lets its entity do. -/
inductive Role where
  | owner
  | reader
  | writer
  deriving DecidableEq, Repr

namespace Role

/-- The roles in the order in which they are listed to people. -/
def all : List Role := [.owner, .reader, .writer]

/-- The name of a role in a resource. -/
def name : Role → String
  | .owner => "OWNER"
  | .reader => "READER"
  | .writer => "WRITER"

/-- The role with exactly this name. -/
def ofName? (s : String) : Option Role := all.find? fun r => r.name = s

/-- Names are read as they are written. -/
theorem ofName?_name (r : Role) : ofName? r.name = some r := by cases r <;> decide

/-- Only the name of a role is read as that role. -/
theorem ofName?_eq_some_iff {s : String} {r : Role} : ofName? s = some r ↔ s = r.name := by
  constructor
  · intro h
    unfold ofName? at h
    have found := List.find?_some h
    exact (of_decide_eq_true found).symm
  · rintro rfl
    exact ofName?_name r

end Role

/-- A team of a project. -/
inductive Team where
  | owners
  | editors
  | viewers
  deriving DecidableEq, Repr

namespace Team

/-- The teams, in the order in which they are listed. -/
def all : List Team := [.owners, .editors, .viewers]

/-- The word that names a team. -/
def name : Team → String
  | .owners => "owners"
  | .editors => "editors"
  | .viewers => "viewers"

/-- The team's name in capitals. -/
def capitals : Team → String
  | .owners => "OWNERS"
  | .editors => "EDITORS"
  | .viewers => "VIEWERS"

/-- The team that a word in lower case names. -/
def ofName? (s : String) : Option Team := all.find? fun t => t.name = s

end Team

end StorageMetadata
