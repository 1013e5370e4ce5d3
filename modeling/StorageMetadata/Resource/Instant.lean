import StorageMetadata.Value.Sequence
import StorageMetadata.Time.Iso8601

/-!
# Instants in a resource

A resource holds an instant as a timestamp.  In a record an instant is a number of milliseconds.
It is written from any number: one with a fraction is first rounded to whole microseconds, and the
rest of a millisecond is then cut off towards the past.
-/

namespace StorageMetadata.Resource

/-- The instant that a field holds. -/
def readInstant (field : String) (v : Value) : Result Int :=
  match v with
  | .text s => match Timestamp.read? s with
    | some n => .ok n
    | none => .error (.wireFormat .timestamp field v (some .malformed))
  | _ => .error (.wireFormat .timestamp field v (some .mistyped))

/-- The microseconds in a finite number of milliseconds.  The whole milliseconds count exactly;
the fraction is multiplied as a number of 64 bits, and the sum is rounded to the nearest integer.
-/
def microsOfMillis (negative : Bool) (m : Nat) (e : Int) : Int :=
  let num := Binary64.numerator m e
  let den := Binary64.denominator e
  let whole := Binary64.signed negative (num / den) * 1000
  match Binary64.ofRatio negative (1000 * (num % den)) den with
  | .finite _ m' e' =>
    let den' := Binary64.denominator e'
    roundHalfEvenInt (whole * den' + Binary64.signed negative (Binary64.numerator m' e')) den'
  | _ => whole

/-- The timestamp of an instant in microseconds, for the field of a record that holds `v`. -/
def writeMicros (field : String) (v : Value) (micros : Int) : Result String :=
  let millis := micros / 1000
  if Timestamp.InRange millis then .ok (Timestamp.write millis)
  else .error (.wireFormat .timestampRange field v (some .outOfRange))

/-- The timestamp of an instant that a record holds. -/
def writeInstant (field : String) (v : Value) : Result String :=
  match v with
  | .int n => writeMicros field v (n * 1000)
  | .bool b => writeMicros field v (if b then 1000 else 0)
  | .float (.finite negative m e) => writeMicros field v (microsOfMillis negative m e)
  | .float (.infinite _) => .error (.wireFormat .timestampRange field v (some .outOfRange))
  | .float (.nan _) => fault .malformed
  | _ => fault .mistyped

/-- An instant in whole milliseconds is written if it is in range. -/
theorem writeInstant_int (field : String) (n : Int) :
    writeInstant field (.int n) =
      if Timestamp.InRange n then .ok (Timestamp.write n)
      else .error (.wireFormat .timestampRange field (.int n) (some .outOfRange)) := by
  show writeMicros field (.int n) (n * 1000) = _
  unfold writeMicros
  rw [Int.mul_ediv_cancel n (by decide)]

/-- An instant of a record, or nothing, as it is written. -/
def instantValue (key : String) (v : Value) : Result Value :=
  if v = .null then .ok .null else (writeInstant key v).map .text

/-- The instant that a field of a resource holds, or nothing. -/
def instantField (key : String) (resource : Value) : Result Value := do
  let v ← resource.field key
  if v = .null then return .null
  return .int (← readInstant key v)

end StorageMetadata.Resource
