import StorageMetadata.CrossOrigin.Resource
import StorageMetadata.Filling

/-!
# Drafts of cross-origin rules

A rule is filled in field by field.  Every field may be left out, so each draft can be built.  The
three sequences are copied when they are put in, and so they are once more when `CorsRule.refill`
puts the fields of a rule into a draft.
-/

namespace StorageMetadata.CorsRule

open StorageMetadata.Resource

/-- The fields of a rule. -/
inductive Field where
  | maxAge
  | methods
  | origins
  | responseHeaders
  deriving DecidableEq, Repr

namespace Field

/-- The fields in the order in which a record lists them. -/
def all : List Field := [.maxAge, .methods, .origins, .responseHeaders]

/-- The name of a field for callers. -/
def label : Field → String
  | .maxAge => "max_age_seconds"
  | .methods => "methods"
  | .origins => "origins"
  | .responseHeaders => "response_headers"

end Field

/-- What a field of a rule holds. -/
def get (r : CorsRule Value) : Field → Value
  | .maxAge => r.maxAge
  | .methods => Value.ofList? r.methods
  | .origins => Value.ofList? r.origins
  | .responseHeaders => Value.ofList? r.responseHeaders

/-- A rule while it is being filled in. -/
structure Draft where
  rule : CorsRule Value := { maxAge := .null }

namespace Draft

/-- What a field of a draft holds. -/
def get (d : Draft) : Field → Value := d.rule.get

/-- Puts a value into a field.  What is given is looked at first. -/
def fill (f : Field) (v : Value) : Filling Draft Unit :=
  match f with
  | .maxAge => modify fun d => ⟨{ d.rule with maxAge := v }⟩
  | .methods => do
    let methods ← sequence? v
    modify fun d => ⟨{ d.rule with methods }⟩
  | .origins => do
    let origins ← sequence? v
    modify fun d => ⟨{ d.rule with origins }⟩
  | .responseHeaders => do
    let responseHeaders ← sequence? v
    modify fun d => ⟨{ d.rule with responseHeaders }⟩

/-- The draft with a value put into a field. -/
def set (d : Draft) (f : Field) (v : Value) : Result Draft := (fill f v).draft d

/-- The rule that a draft describes. -/
def build (d : Draft) : CorsRule Value := d.rule

/-- What a field holds after a value has been put into it. -/
def stored (f : Field) (v : Value) : Result Value :=
  match f with
  | .maxAge => .ok v
  | _ => (sequence? v).map Value.ofList?

/-- The rule that the draft describes at this point. -/
def finish : Filling Draft (CorsRule Value) := do return (← getThe Draft).build

/-- A value is put into a field in its stored form, and into no other. -/
theorem puts_fill (f : Field) (v : Value) : Filling.Puts get f (stored f v) (fill f v) := by
  cases f
  case maxAge =>
    refine Filling.puts_modify (fun _ => rfl) fun d g hne => ?_
    cases g <;> first | rfl | exact absurd rfl hne
  all_goals
    refine Filling.puts_bind fun _ => Filling.puts_modify (fun _ => rfl) fun d g hne => ?_
    cases g <;> first | rfl | exact absurd rfl hne

/-- A value that was put into a field is held there in its stored form. -/
theorem get_set {d d' : Draft} {f : Field} {v : Value} (h : d.set f v = .ok d') :
    stored f v = .ok (d'.build.get f) :=
  ((puts_fill f v).of_after_ok (Filling.draft_eq_ok_iff.1 h)).1

/-- Putting a value into one field leaves the others alone. -/
theorem get_set_ne {d d' : Draft} {f g : Field} {v : Value} (h : d.set f v = .ok d')
    (hne : g ≠ f) : d'.build.get g = d.build.get g :=
  ((puts_fill f v).of_after_ok (Filling.draft_eq_ok_iff.1 h)).2 g hne

end Draft

/-- A draft with the fields of a rule. -/
def toDraft (r : CorsRule Value) : Draft := ⟨r⟩

/-- Puts the fields of a rule into a draft the way callers do it. -/
def refill (r : CorsRule Value) : Filling Draft Unit := do
  Draft.fill .maxAge r.maxAge
  Draft.fill .methods (Value.ofList? r.methods)
  Draft.fill .origins (Value.ofList? r.origins)
  Draft.fill .responseHeaders (Value.ofList? r.responseHeaders)

/-- A draft with the fields of a rule, put together anew. -/
def copy (r : CorsRule Value) : Result Draft := r.refill.draft {}

/-- A rule whose fields are given one by one. -/
def ofFields (given : Field → Value) : Result (CorsRule Value) := do
  let methods ← sequence? (given .methods)
  let origins ← sequence? (given .origins)
  let responseHeaders ← sequence? (given .responseHeaders)
  return { maxAge := given .maxAge, methods, origins, responseHeaders }

end StorageMetadata.CorsRule
