import StorageMetadata.Text.Split

/-!
# Paths

A path is what stands before the first part (nothing, or one or two slashes) and its parts.  Empty
parts and single dots are left out when a path is read from a text, so two texts may name one
path; two dots are kept.
-/

namespace StorageMetadata

/-- A path of a file. -/
structure Path where
  /-- The slashes at the front: none, one, or two. -/
  root : String
  parts : List String
  deriving DecidableEq, Repr

namespace Path

/-- Three or more slashes at the front count as one, two stay two. -/
def rootOf (cs : List Char) : String :=
  match (cs.takeWhile (· = '/')).length with
  | 0 => ""
  | 2 => "//"
  | _ => "/"

/-- The path that a text names. -/
def ofString (s : String) : Path where
  root := rootOf s.toList
  parts := ((Text.splitAll '/' s.toList).map String.ofList).filter fun part =>
    part ≠ "" ∧ part ≠ "."

/-- The text of a path; the path with nothing in it is a dot. -/
def write (p : Path) : String :=
  if p.root = "" ∧ p.parts = [] then "." else p.root ++ "/".intercalate p.parts

/-- The last part of a path, or nothing. -/
def name (p : Path) : String := p.parts.getLastD ""

end Path

end StorageMetadata
