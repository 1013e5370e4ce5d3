/-!
# Origins

An origin that a cross-origin rule allows: an address, or `*` for every origin.  There is one
origin for `*` that everybody shares; an origin that was made from the text `*` without looking it
up is equal to it but is not that one, and `shared` tells the two apart.
-/

namespace StorageMetadata

/-- An origin by its text, a value of type `α`. -/
structure Origin (α : Type) where
  value : α
  /-- Is this the one origin that stands for all? -/
  shared : Bool
  deriving DecidableEq, Repr

/-- The text that stands for every origin. -/
def anyOrigin : String := "*"

end StorageMetadata
