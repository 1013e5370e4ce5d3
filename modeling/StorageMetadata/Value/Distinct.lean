import StorageMetadata.Value.Equality

/-!
# How many values are different

`distinctCount` tells how many members a set has that is made from a list of values: a value is a
new member unless one with the same fingerprint is equal to it.  A value without a fingerprint
cannot be a member.
-/

namespace StorageMetadata.Value

/-- The fingerprint of a value that is to be put into a set. -/
def fingerprint (v : Value) : Result Fingerprint :=
  match v.fingerprint? with
  | some f => .ok f
  | none => fault .mistyped

/-- Do two values have the same fingerprint?  Both need to have one. -/
def sameFingerprint (v w : Value) : Result Bool := do
  return (← v.fingerprint).same (← w.fingerprint)

/-- Is a value equal to one of the members?  They are tried in the order in which they came. -/
def isMember (v : Value) : List Value → Result Bool
  | [] => .ok false
  | m :: rest => do
    if ← v.sameFingerprint m then
      if ← m.same v then return true
    isMember v rest

/-- The members that are found, and then those of the values that are new, in their order. -/
def members : List Value → List Value → Result (List Value)
  | found, [] => .ok found
  | found, v :: rest => do
    let _ ← v.fingerprint
    if ← v.isMember found then members found rest else members (found ++ [v]) rest

/-- How many different values there are in a list. -/
def distinctCount (vs : List Value) : Result Nat := do
  return (← members [] vs).length

end StorageMetadata.Value
