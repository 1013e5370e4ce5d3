import StorageMetadata.Failure

/-!
# Going through a value

Some fields take a sequence and are given whatever a resource holds.  The items of a list are its
own, a text is gone through by character and a map by key; nothing else can be gone through.  Only
a map has fields.
-/

namespace StorageMetadata

/-- The value at a text, in a map with keys of any kind. -/
def valueAtText? (key : String) : List (Value × Value) → Option Value
  | [] => none
  | (.text k, v) :: rest => if k = key then some v else valueAtText? key rest
  | _ :: rest => valueAtText? key rest

namespace Value

/-- The items of a value in order. -/
def items : Value → Result (List Value)
  | .list xs => .ok xs
  | .text s => .ok (s.toList.map fun c => .text c.toString)
  | .map es => .ok (es.map fun e => .text e.1)
  | .keyed es => .ok (es.map Prod.fst)
  | _ => fault .mistyped

/-- The value at a key; a map without the key gives nothing. -/
def field (key : String) : Value → Result Value
  | .map es => .ok ((valueAt? key es).getD .null)
  | .keyed es => .ok ((valueAtText? key es).getD .null)
  | _ => fault .unsupported

/-- Has the map an entry at the key? -/
def hasField (key : String) : Value → Bool
  | .map es => (valueAt? key es).isSome
  | .keyed es => (valueAtText? key es).isSome
  | _ => false

end Value

end StorageMetadata
