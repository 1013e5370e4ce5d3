import StorageMetadata.Number.Binary64
import StorageMetadata.Number.Decimal

/-!
# Reading a decimal as a binary number

The text of a number with a point: blanks around it, a sign, then `inf`, `infinity` or `nan` in
any letter case, or digits with an optional point among them and an optional exponent of ten.  The
digits may be of any script, and one underscore may stand between two digits.  The value is the
exact decimal rounded once.
-/

namespace StorageMetadata.Binary64

open StorageMetadata.Text

/-- A run of digits, each underscore between two digits left out, and what follows it. -/
def takeGrouped : List Char → List Nat × List Char
  | [] => ([], [])
  | [c] => match digit? c with
    | some d => ([d], [])
    | none => ([], [c])
  | c :: '_' :: rest => match digit? c with
    | none => ([], c :: '_' :: rest)
    | some d => match takeGrouped rest with
      | ([], _) => ([d], '_' :: rest)
      | (ds, after) => (d :: ds, after)
  | c :: x :: rest => match digit? c with
    | none => ([], c :: x :: rest)
    | some d => let (ds, after) := takeGrouped (x :: rest); (d :: ds, after)

/-- The ASCII letter in lower case. -/
def lowerLetter (c : Char) : Char :=
  if 'A' ≤ c ∧ c ≤ 'Z' then Char.ofNat (c.toNat + 32) else c

/-- The exponent of ten at the end of a number. -/
def exponent? : List Char → Option Int
  | [] => some 0
  | e :: rest => do
    guard (e = 'e' ∨ e = 'E')
    let (negative, body) := Decimal.takeSign rest
    let (ds, after) := takeGrouped body
    guard (ds ≠ [] ∧ after = [])
    return signed negative (Decimal.digitsValue ds)

/-- The number nearest to `± digits * 10 ^ exponent`.  Beyond a thousand places past the digits'
own length the value is an infinity or zero whatever the digits are. -/
def ofScaled (negative : Bool) (ds : List Nat) (exponent : Int) : Binary64 :=
  let n := Decimal.digitsValue ds
  if n = 0 then zero negative
  else if 1000 < exponent + ds.length ∧ 1000 < exponent then .infinite negative
  else if exponent + ds.length < -1000 then zero negative
  else ofRatio negative (n * Nat.pow 10 exponent.toNat) (Nat.pow 10 (-exponent).toNat)

/-- The digits before and after the point, the places after the point counted, and what follows. -/
def takeMantissa (cs : List Char) : List Nat × Nat × List Char :=
  let (whole, after) := takeGrouped cs
  match after with
  | '.' :: rest =>
    let (fraction, after') := takeGrouped rest
    (whole ++ fraction, fraction.length, after')
  | _ => (whole, 0, after)

/-- The number that a text stands for; a text that is no number at all gets the label `label`. -/
def readChars? (label : Nat) (cs : List Char) : Option Binary64 := do
  let (negative, body) := Decimal.takeSign (strip cs)
  let word := String.ofList (body.map lowerLetter)
  if word = "inf" ∨ word = "infinity" then return .infinite negative
  if word = "nan" then return .nan label
  let (ds, places, after) := takeMantissa body
  guard (ds ≠ [])
  let exponent ← exponent? after
  return ofScaled negative ds (exponent - places)

/-- The number that a text stands for. -/
def read? (label : Nat) (s : String) : Option Binary64 := readChars? label s.toList

end StorageMetadata.Binary64
