import StorageMetadata.Number.Binary64
import StorageMetadata.Number.Decimal

/-!
# The shortest decimal that reads back

A finite number is written with the fewest decimal digits that round to it again, and of those
with the nearest.  `Reach` is the interval of quotients that round to the number, both ends
included exactly if the significand is even.  For one digit, two digits and so on, `candidate?`
tests the two neighbours of the number on the decimal grid of that length; seventeen digits always
suffice.

`write` places the point: positional from `10 ^ -4` up to `10 ^ 16`, with an exponent of at least
two digits and its sign otherwise.
-/

namespace StorageMetadata.Binary64

open StorageMetadata

/-! ### The interval that rounds to a number -/

/-- The quotients from `low / unit` to `high / unit`, the ends included if `closed`; the number
itself is `value / unit`. -/
structure Reach where
  low : Nat
  value : Nat
  high : Nat
  unit : Nat
  closed : Bool

/-- The interval of quotients that round to `m * 2 ^ e`: half a unit up, and half a unit down or,
just above a power of two, a quarter. -/
def reach (m : Nat) (e : Int) : Reach :=
  let below := if m = Nat.pow 2 52 ∧ e ≠ leastExponent then 1 else 2
  { low := scaleUp (4 * m - below) (e - 2)
    value := scaleUp (4 * m) (e - 2)
    high := scaleUp (4 * m + 2) (e - 2)
    unit := Nat.pow 2 (2 - e).toNat
    closed := m % 2 = 0 }

/-- Does `num / den` lie in the interval? -/
def Reach.contains (r : Reach) (num den : Nat) : Bool :=
  let x := num * r.unit
  if r.closed then r.low * den ≤ x && x ≤ r.high * den else r.low * den < x && x < r.high * den

/-! ### The digits -/

/-- The decimal `digits * 10 ^ exponent`. -/
structure Scaled where
  digits : Nat
  exponent : Int

/-- The number of places by which the point of a positive quotient has to move to stand before its
first digit, for quotients of at least `10 ^ -400`. -/
def pointOf (num den : Nat) : Int :=
  ((Decimal.digits (num * Nat.pow 10 400 / den)).length : Int) - 400

/-- The neighbour of the value on the grid of multiples of `10 ^ exponent` that lies in the
interval, the nearer one if both do, the even one if both are equally near. -/
def candidate? (r : Reach) (exponent : Int) : Option Scaled :=
  let up := Nat.pow 10 exponent.toNat
  let down := Nat.pow 10 (-exponent).toNat
  let floor := r.value * down / (r.unit * up)
  let below := r.value * down - floor * up * r.unit
  let above := (floor + 1) * up * r.unit - r.value * down
  match r.contains (floor * up) down, r.contains ((floor + 1) * up) down with
  | true, true =>
    if below < above ∨ below = above ∧ floor % 2 = 0 then some ⟨floor, exponent⟩
    else some ⟨floor + 1, exponent⟩
  | true, false => some ⟨floor, exponent⟩
  | false, true => some ⟨floor + 1, exponent⟩
  | false, false => none

/-- The shortest decimal that rounds to `m * 2 ^ e`, for a positive `m`. -/
def shortest (m : Nat) (e : Int) : Scaled :=
  let r := reach m e
  let point := pointOf r.value r.unit
  ((List.range 17).findSome? fun (n : Nat) => candidate? r (point - (n + 1 : Nat))).getD ⟨m, 0⟩

/-! ### The text -/

/-- The digits with the zeros at the end taken off. -/
def trimZeros (ds : List Char) : List Char := (ds.reverse.dropWhile (· = '0')).reverse

/-- The exponent with its sign and at least two digits. -/
def exponentChars (n : Int) : List Char :=
  let ds := Decimal.digits n.natAbs
  (if n < 0 then '-' else '+') :: (if ds.length < 2 then '0' :: ds else ds)

/-- Digits with a point after the first `point` of them, filled up with zeros, and at least one
digit on either side. -/
def positional (ds : List Char) (point : Int) : List Char :=
  if point ≤ 0 then '0' :: '.' :: List.replicate (-point).toNat '0' ++ ds
  else
    let n := point.toNat
    if ds.length ≤ n then ds ++ List.replicate (n - ds.length) '0' ++ ['.', '0']
    else ds.take n ++ '.' :: ds.drop n

/-- One digit before the point, and the exponent. -/
def scientific (ds : List Char) (point : Int) : List Char :=
  let mantissa := match ds with
    | d :: r@(_ :: _) => d :: '.' :: r
    | _ => ds
  mantissa ++ 'e' :: exponentChars (point - 1)

/-- The text of a finite magnitude. -/
def magnitudeChars (m : Nat) (e : Int) : List Char :=
  if m = 0 then ['0', '.', '0']
  else
    let d := shortest m e
    let ds := Decimal.digits d.digits
    let point := d.exponent + ds.length
    if -4 < point ∧ point ≤ 16 then positional (trimZeros ds) point
    else scientific (trimZeros ds) point

/-- The text of a number. -/
def write : Binary64 → String
  | .finite negative m e =>
    String.ofList (if negative then '-' :: magnitudeChars m e else magnitudeChars m e)
  | .infinite negative => if negative then "-inf" else "inf"
  | .nan _ => "nan"

end StorageMetadata.Binary64
