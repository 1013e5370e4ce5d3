/-!
# Cross-origin rules

One rule of a bucket's list: the request methods and the origins that it allows, the response
headers that a browser may show, and how long a browser may remember the answer.  Each part may be
missing, which is not the same as an empty list.
-/

namespace StorageMetadata

/-- A cross-origin rule with parts of type `α`. -/
structure CorsRule (α : Type) where
  /-- How many seconds the answer may be remembered. -/
  maxAge : α
  methods : Option (List α) := none
  origins : Option (List α) := none
  responseHeaders : Option (List α) := none
  deriving DecidableEq, Repr

end StorageMetadata
