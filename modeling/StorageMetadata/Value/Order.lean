import StorageMetadata.Value.Equality

/-!
# The order of numbers

Numbers of all kinds are ordered by their exact values, a truth value as zero or one.  Nothing else
among the values has an order of its own here; texts are ordered as texts.
-/

namespace StorageMetadata.Value

/-- Is the value a number, or a truth value that counts as one? -/
def isNumber : Value → Bool
  | .bool _ | .int _ | .float _ => true
  | _ => false

/-- Is one number less than another? -/
def less : Value → Value → Bool
  | .float x, .float y => x.lt y
  | .float x, w => w.toInt?.any x.ltInt
  | v, .float y => v.toInt?.any y.gtInt
  | v, w => match v.toInt?, w.toInt? with
    | some m, some n => m < n
    | _, _ => false

end StorageMetadata.Value
