import StorageMetadata.Text.Case

/-!
# Request methods

The six methods that a cross-origin rule may name.  A name is looked up without regard to letter
case.
-/

namespace StorageMetadata

/-- A request method. -/
inductive Method where
  | get
  | head
  | put
  | post
  | delete
  | options
  deriving DecidableEq, Repr

namespace Method

/-- The methods in the order in which they are listed to people. -/
def all : List Method := [.get, .head, .put, .post, .delete, .options]

/-- The name of a method, in capitals. -/
def name : Method → String
  | .get => "GET"
  | .head => "HEAD"
  | .put => "PUT"
  | .post => "POST"
  | .delete => "DELETE"
  | .options => "OPTIONS"

/-- The method whose name is the upper case of `s`. -/
def ofName? (s : String) : Option Method := all.find? fun m => m.name = Text.upper s

end Method

end StorageMetadata
