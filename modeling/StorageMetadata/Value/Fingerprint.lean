import StorageMetadata.Value.Text

/-!
# Fingerprints of values

A constant has the fingerprint of its name, and a value with parts those of its parts; a rule is a
value with four parts, a grant one with two.  Lists and maps have none, and nor has what contains
one.
-/

namespace StorageMetadata.Value

mutual

/-- The fingerprint of a value, if it has one. -/
def fingerprint? : Value → Option Fingerprint
  | .null => some .absent
  | .bool b => some (.number (if b then 1 else 0))
  | .int n => some (.ofInt n)
  | .float x => some (.ofFloat x)
  | .text s => some (.ofText s)
  | .list _ => none
  | .map _ => none
  | .keyed _ => none
  | .cleared => some (.text "CLEARED")
  | .method m => some (.text m.name)
  | .origin o => originFingerprint? o
  | .entity e => entityFingerprint? e
  | .grant g => grantFingerprint? g
  | .rule r => ruleFingerprint? r
  | .record r => r.fingerprint?
  | .draft label => some (.draft label)
termination_by structural v => v

/-- The fingerprints of the items of a fixed sequence. -/
def fingerprints? : List Value → Option (List Fingerprint)
  | [] => some []
  | v :: rest => do return (← fingerprint? v) :: (← fingerprints? rest)

/-- The fingerprint of an origin. -/
def originFingerprint? : Origin Value → Option Fingerprint
  | ⟨v, _⟩ => do return .parts [← fingerprint? v]

/-- The fingerprint of an entity. -/
def entityFingerprint? : Entity Value → Option Fingerprint
  | .user v => do return .parts [← fingerprint? v]
  | .group v => do return .parts [← fingerprint? v]
  | .domain v => do return .parts [← fingerprint? v]
  | .project t v => do
    return .parts [.ofText (t.name ++ "-" ++ display v), .text t.capitals, ← fingerprint? v]
  | .raw v => do return .parts [← fingerprint? v]

/-- The fingerprint of a grant. -/
def grantFingerprint? : Grant Value → Option Fingerprint
  | ⟨v, r⟩ => do return .parts [← fingerprint? v, .text r.name]

/-- The fingerprint of a rule. -/
def ruleFingerprint? : CorsRule Value → Option Fingerprint
  | ⟨maxAge, methods, origins, responseHeaders⟩ => do
    return .parts [← fingerprint? maxAge, ← sequenceFingerprint? methods,
      ← sequenceFingerprint? origins, ← sequenceFingerprint? responseHeaders]

/-- The fingerprint of a fixed sequence that may be missing. -/
def sequenceFingerprint? : Option (List Value) → Option Fingerprint
  | none => some .absent
  | some items => (fingerprints? items).map .parts

end

end StorageMetadata.Value
