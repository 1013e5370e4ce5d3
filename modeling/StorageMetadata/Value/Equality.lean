import StorageMetadata.Failure
import StorageMetadata.Value.Fingerprint

/-!
# Equality of values

`Value.same` compares what values stand for.  Numbers are compared as numbers, whatever their
kind, and a truth value counts as zero or one.  Maps are compared without regard to the order of
their entries, lists and fixed sequences item by item.  Values of the domain are equal if they are
of one kind and their parts are equal; whether an origin is the shared one does not matter.

Two records are equal if their resources are.  A record that cannot be written cannot be compared
with another, which is why a comparison may fail; it ends, though, as soon as a difference is
found.
-/

namespace StorageMetadata.Value

/-- The integer that a value is equal to, if it is a number with an integer for its value. -/
def toInt? : Value → Option Int
  | .bool b => some (if b then 1 else 0)
  | .int n => some n
  | .float x => x.toInt?
  | _ => none

/-- Equality of two numbers of 64 bits; what is not a number equals itself only. -/
def sameFloat : Binary64 → Binary64 → Bool
  | .nan a, .nan b => a = b
  | x, y => x.sameNumber y

/-- Equality of numbers of any kind. -/
def sameScalar : Value → Value → Bool
  | .float x, .float y => sameFloat x y
  | v, w => match v.toInt?, w.toInt? with
    | some m, some n => m = n
    | _, _ => false

/-- Have two values the same fingerprint?  Of keys and members only such are compared. -/
def maybeSame (v w : Value) : Bool :=
  match v.fingerprint?, w.fingerprint? with
  | some f, some g => f.same g
  | _, _ => false

mutual

/-- Do two values stand for the same? -/
def same : Value → Value → Result Bool
  | .null, .null => .ok true
  | .text s, .text t => .ok (s = t)
  | .list xs, .list ys => if xs.length = ys.length then sameItems xs ys else .ok false
  | .map es, .map fs => if es.length = fs.length then sameEntries es fs else .ok false
  | .keyed es, .keyed fs => if es.length = fs.length then sameKeyed es fs else .ok false
  | .cleared, .cleared => .ok true
  | .method m, .method n => .ok (m = n)
  | .origin o, .origin p => sameOrigin o p
  | .entity e, .entity f => sameEntity e f
  | .grant g, .grant h => sameGrant g h
  | .rule r, .rule q => sameRule r q
  | .record r, .record s => sameRecord r s
  | .draft a, .draft b => .ok (a = b)
  | .bool b, w => .ok (sameScalar (.bool b) w)
  | .int n, w => .ok (sameScalar (.int n) w)
  | .float x, w => .ok (sameScalar (.float x) w)
  | _, _ => .ok false
termination_by structural x => x

/-- Do two lists have the same items in the same order? -/
def sameItems : List Value → List Value → Result Bool
  | [], [] => .ok true
  | v :: vs, w :: ws => do if ← same v w then sameItems vs ws else return false
  | _, _ => .ok false
termination_by structural x => x

/-- Is each entry found among the others with the same value? -/
def sameEntries : List (String × Value) → List (String × Value) → Result Bool
  | [], _ => .ok true
  | e :: es, fs => do if ← sameEntry e fs then sameEntries es fs else return false
termination_by structural x => x

/-- Is the entry found among the others with the same value? -/
def sameEntry : String × Value → List (String × Value) → Result Bool
  | (key, v), fs => match valueAt? key fs with
    | some w => same v w
    | none => .ok false
termination_by structural x => x

/-- Is each entry, whatever its key, found among the others with the same value? -/
def sameKeyed : List (Value × Value) → List (Value × Value) → Result Bool
  | [], _ => .ok true
  | e :: es, fs => do if ← sameKeyedEntry e fs then sameKeyed es fs else return false
termination_by structural x => x

/-- Is the entry, whatever its key, found among the others with the same value? -/
def sameKeyedEntry : Value × Value → List (Value × Value) → Result Bool
  | (key, v), fs => do
    match ← fs.findM? fun f => if key.maybeSame f.1 then same key f.1 else .ok false with
    | some f => same v f.2
    | none => return false
termination_by structural x => x

/-- Have two origins the same text? -/
def sameOrigin : Origin Value → Origin Value → Result Bool
  | ⟨v, _⟩, o => same v o.value
termination_by structural x => x

/-- Are two entities of one kind with the same parts?  Two projects also have to be spelled alike.
-/
def sameEntity : Entity Value → Entity Value → Result Bool
  | .user v, .user w => same v w
  | .group v, .group w => same v w
  | .domain v, .domain w => same v w
  | .project t v, .project u w =>
    if t = u ∧ display v = display w then same v w else .ok false
  | .raw v, .raw w => same v w
  | _, _ => .ok false
termination_by structural x => x

/-- Do two grants give the same role to the same entity? -/
def sameGrant : Grant Value → Grant Value → Result Bool
  | ⟨v, r⟩, g => do return (← same v g.entity) && r = g.role
termination_by structural x => x

/-- Have two rules the same parts? -/
def sameRule : CorsRule Value → CorsRule Value → Result Bool
  | ⟨maxAge, methods, origins, responseHeaders⟩, q => do
    if ← same maxAge q.maxAge then
      if ← sameSequence methods q.methods then
        if ← sameSequence origins q.origins then
          return ← sameSequence responseHeaders q.responseHeaders
    return false
termination_by structural x => x

/-- Are two sequences both missing, or have they the same items? -/
def sameSequence : Option (List Value) → Option (List Value) → Result Bool
  | none, none => .ok true
  | some xs, some ys => sameItems xs ys
  | _, _ => .ok false
termination_by structural x => x

/-- Are two records one and the same, or of one kind with the same resource? -/
def sameRecord : Record Value → Record Value → Result Bool
  | ⟨kind, label, _, _, resource⟩, s =>
    if label = s.label then .ok true
    else match kind, s.kind with
      | .object, .object => sameResource resource s.resource
      | .bucket _, .bucket _ => sameResource resource s.resource
      | _, _ => .ok false
termination_by structural x => x

/-- Are two resources the same?  Both need to be there. -/
def sameResource : Result Value → Result Value → Result Bool
  | .ok v, .ok w => same v w
  | .error f, _ => .error f
  | .ok _, .error f => .error f
termination_by structural x => x

end

@[simp] theorem same_text (s t : String) : same (.text s) (.text t) = .ok (decide (s = t)) := rfl

@[simp] theorem same_null : same .null .null = .ok true := rfl

/-- A list is compared with a list item by item, if they are of one length. -/
theorem same_list (xs ys : List Value) :
    same (.list xs) (.list ys) = if xs.length = ys.length then sameItems xs ys else .ok false := rfl

/-- Do two values stand for the same, if it is not known beforehand that they may be one?  Then
records are compared by their resources in any case. -/
def equal : Value → Value → Result Bool
  | .record r, .record s => match r.kind, s.kind with
    | .object, .object => sameResource r.resource s.resource
    | .bucket _, .bucket _ => sameResource r.resource s.resource
    | _, _ => .ok false
  | v, w => same v w

/-- Is the integer one of those that are kept once and shared? -/
def isSharedInt (n : Int) : Bool := -5 ≤ n && n ≤ 256

/-- Is the text one of those that are kept once and shared?  It has at most one character, of the
first 256. -/
def isSharedText (s : String) : Bool :=
  match s.toList with
  | [] => true
  | [c] => c.toNat < 256
  | _ => false

/-- Are two values one and the same, not only equal?  This holds of nothing, truth values, small
integers, the shortest texts, the marker of a cleared field, methods, the one origin that stands
for all, and of records by their labels. -/
def isOne : Value → Value → Bool
  | .null, .null => true
  | .bool b, .bool c => b = c
  | .int m, .int n => m = n && isSharedInt m
  | .text s, .text t => s = t && isSharedText s
  | .cleared, .cleared => true
  | .method m, .method n => m = n
  | .origin o, .origin p => o.shared && p.shared
  | .record r, .record s => r.label = s.label
  | .draft a, .draft b => a = b
  | _, _ => false

end StorageMetadata.Value
