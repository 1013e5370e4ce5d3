import StorageMetadata.Number.Rounding

/-!
# Numbers with a 53-bit significand

The binary floating-point numbers of 64 bits, kept exactly: a finite number is a sign, a
significand and an exponent of two,

    ± significand * 2 ^ exponent,

with the significand below `2 ^ 53` and the exponent at least `-1074`; it is at least `2 ^ 52`
unless the exponent is the least one.  So a value other than zero is written in one way, and zero
in two.  `ofRatio` rounds an exact quotient to the nearest such number, to the even significand
when two are equally near, and to an infinity from halfway beyond the largest on.

What is not a number carries a label: two such values are the same one exactly if their labels
agree.
-/

namespace StorageMetadata

/-- A binary floating-point number of 64 bits. -/
inductive Binary64 where
  /-- The number `± significand * 2 ^ exponent`. -/
  | finite (negative : Bool) (significand : Nat) (exponent : Int)
  | infinite (negative : Bool)
  /-- Not a number; the label tells one occurrence from another. -/
  | nan (label : Nat)
  deriving DecidableEq, Repr

namespace Binary64

/-- The exponent of the unit in the last place of the smallest numbers. -/
def leastExponent : Int := -1074

/-- The exponent of the unit in the last place of the largest numbers. -/
def greatestExponent : Int := 971

/-- `n * 2 ^ e` for an exponent that may be negative, as the numerator of a quotient. -/
def scaleUp (n : Nat) (e : Int) : Nat := n * Nat.pow 2 e.toNat

/-- The exponent `e` at which `num / den` has 53 binary digits before the point. -/
def unitExponent (num den : Nat) : Int :=
  let k : Int := (num.log2 : Int) - (den.log2 : Int)
  let e := if scaleUp den k ≤ scaleUp num (-k) then k - 52 else k - 53
  max e leastExponent

/-- Zero with the given sign. -/
def zero (negative : Bool) : Binary64 := .finite negative 0 leastExponent

/-- The number nearest to `± num / den`. -/
def ofRatio (negative : Bool) (num den : Nat) : Binary64 :=
  if num = 0 then zero negative
  else
    let e := unitExponent num den
    let m := roundHalfEven (scaleUp num (-e)) (scaleUp den e)
    let (m, e) := if m = Nat.pow 2 53 then (Nat.pow 2 52, e + 1) else (m, e)
    if greatestExponent < e then .infinite negative else .finite negative m e

/-- The number nearest to an integer. -/
def ofInt (n : Int) : Binary64 := ofRatio (n < 0) n.natAbs 1

/-- The numerator of the exact value's magnitude. -/
def numerator (significand : Nat) (exponent : Int) : Nat := scaleUp significand exponent

/-- The denominator of the exact value's magnitude, a power of two. -/
def denominator (exponent : Int) : Nat := Nat.pow 2 (-exponent).toNat

/-- A sign put before a natural number. -/
def signed (negative : Bool) (n : Nat) : Int := if negative then -(n : Int) else n

/-- The integer that the number is equal to, if it is one. -/
def toInt? : Binary64 → Option Int
  | .finite negative m e =>
    if numerator m e % denominator e = 0 then some (signed negative (numerator m e / denominator e))
    else none
  | _ => none

/-- Equality as numbers: the two zeros are equal, and what is not a number equals nothing. -/
def sameNumber : Binary64 → Binary64 → Bool
  | .finite s m e, .finite s' m' e' => m = m' && e = e' && (s = s' || m = 0)
  | .infinite s, .infinite s' => s = s'
  | _, _ => false

/-- Is one number less than another?  What is not a number is neither. -/
def lt : Binary64 → Binary64 → Bool
  | .finite s m e, .finite s' m' e' =>
    signed s (numerator m e) * denominator e' < signed s' (numerator m' e') * denominator e
  | .finite .., .infinite s => !s
  | .infinite s, .finite .. => s
  | .infinite s, .infinite s' => s && !s'
  | _, _ => false

/-- Is the number less than the integer `n`?  What is not a number is not. -/
def ltInt : Binary64 → Int → Bool
  | .finite negative m e, n => signed negative (numerator m e) < n * denominator e
  | .infinite negative, _ => negative
  | .nan _, _ => false

/-- Is the number greater than the integer `n`?  What is not a number is not. -/
def gtInt : Binary64 → Int → Bool
  | .finite negative m e, n => n * denominator e < signed negative (numerator m e)
  | .infinite negative, _ => !negative
  | .nan _, _ => false

/-- Does the number lie between two integers, both ends included? -/
def isBetween (low high : Int) : Binary64 → Bool
  | .nan _ => false
  | x => !x.ltInt low && !x.gtInt high

end Binary64

end StorageMetadata
