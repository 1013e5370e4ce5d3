import StorageMetadata.Notice
import StorageMetadata.Resource.Entry
import StorageMetadata.Value.Shown

/-!
# Cross-origin rules in a resource

A bucket's resource lists its rules, each a map of up to four entries.  Methods are read without
regard to letter case and written in capitals; the origin `*` is always the shared one; an entry
that is missing or holds nothing leaves its part of the rule missing.
-/

namespace StorageMetadata

open StorageMetadata.Resource

/-- The method that a value names. -/
def Method.read : Value → Result Method
  | .text s => match Method.ofName? s with
    | some m => .ok m
    | none => .error (.unknownMethod (.text s) (some .unknownName))
  | v => .error (.unknownMethod v (some .unsupported))

/-- The origin with the given text. -/
def Origin.of (v : Value) : Result (Origin Value) :=
  match v with
  | .null => .error (.missingField "value")
  | .text s => .ok ⟨v, s = anyOrigin⟩
  | _ => .ok ⟨v, false⟩

/-- An origin of its own with the given text, even if that is `*`. -/
def Origin.unshared (v : Value) : Result (Origin Value) :=
  if v = .null then .error (.missingField "value") else .ok ⟨v, false⟩

/-- The value that a constant or a value with a single part stands for. -/
def Value.content : Value → Result Value
  | .method m => .ok (.text m.name)
  | .cleared => .ok (.text "CLEARED")
  | .origin o => .ok o.value
  | .entity e => match e with
    | .user v | .group v | .domain v | .raw v => .ok v
    | .project t v => .ok (.text (t.name ++ "-" ++ v.display))
  | _ => fault .unsupported

namespace CorsRule

/-- The entry of a sequence that is left out when it is missing. -/
def listEntry (key : String) : Option (List Value) → List (String × Value)
  | none => []
  | some items => [(key, .list items)]

/-- Changes every item of a sequence that may be missing. -/
def mapItems (f : Value → Result Value) : Option (List Value) → Result (Option (List Value))
  | none => .ok none
  | some items => (items.mapM f).map some

/-- A rule as an entry of a bucket's resource. -/
def encode (r : CorsRule Value) : Result Value := do
  let methods ← mapItems Value.content r.methods
  let origins ← mapItems (fun v => v.shown.map .text) r.origins
  return .map (entry "maxAgeSeconds" r.maxAge ++ listEntry "method" methods ++
    listEntry "origin" origins ++ listEntry "responseHeader" r.responseHeaders)

/-- The rule that an entry of a bucket's resource stands for. -/
def decode (resource : Value) : Traced (CorsRule Value) := do
  let maxAge ← resource.field "maxAgeSeconds"
  let names ← sequence? (← resource.field "method")
  let methods ← mapItems (fun v => (Method.read v).map .method) names
  let values ← sequence? (← resource.field "origin")
  let origins ← mapItems (fun v => (Origin.of v).map .origin) values
  let responseHeaders ← sequence? (← resource.field "responseHeader")
  let rule := { maxAge, methods, origins, responseHeaders : CorsRule Value }
  Traced.remark (.decodedRule rule)
  return rule

end CorsRule

end StorageMetadata
