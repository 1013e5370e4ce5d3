import StorageMetadata.Text.Digit
import StorageMetadata.Text.Blank

/-!
# Integers in decimal

`Decimal.write` writes an integer with a minus sign if it is negative and no leading zero.
`Decimal.read?` reads more than that: blanks around the number, a plus sign, leading zeros, the
digits of any script, and single underscores strictly between digits are all allowed,

    blanks  sign?  digit (_? digit)*  blanks,

up to `maxDigits` digits.  The value of a run of digits is `digitsValue`, a fold of its own.
-/

namespace StorageMetadata.Decimal

open StorageMetadata.Text

/-! ### Writing -/

/-- The decimal digits of `n`, without leading zeros. -/
def digits (n : Nat) : List Char := Nat.toDigits 10 n

/-- The last digit comes off the end. -/
theorem digits_eq (n : Nat) :
    digits n = if n < 10 then [n.digitChar] else digits (n / 10) ++ [(n % 10).digitChar] :=
  Nat.toDigits_eq_if (by decide)

/-- The characters that write `n`. -/
def chars (n : Int) : List Char :=
  if n < 0 then '-' :: digits n.natAbs else digits n.natAbs

/-- The text that writes `n`. -/
def write (n : Int) : String := String.ofList (chars n)

/-- The last `width` decimal digits of `n`, leading zeros included. -/
def padded : (width n : Nat) → List Char
  | 0, _ => []
  | width + 1, n => padded width (n / 10) ++ [digitChar (n % 10)]

@[simp] theorem length_padded (width n : Nat) : (padded width n).length = width := by
  induction width generalizing n with
  | zero => rfl
  | succ w ih => simp [padded, ih]

/-! ### Reading -/

/-- The most digits that a number may have, leading zeros counted. -/
def maxDigits : Nat := 4300

/-- The number that a run of digits stands for in base ten. -/
def digitsValue (ds : List Nat) : Nat := ds.foldl (fun n d => 10 * n + d) 0

/-- The digits of a text made of digits with at most one underscore between two of them. -/
def grouped? : List Char → Option (List Nat)
  | [] => none
  | [c] => (digit? c).map ([·])
  | c :: '_' :: rest => do return (← digit? c) :: (← grouped? rest)
  | c :: d :: rest => do return (← digit? c) :: (← grouped? (d :: rest))

/-- Takes a sign off the front; the flag tells whether it was a minus sign. -/
def takeSign : List Char → Bool × List Char
  | '-' :: rest => (true, rest)
  | '+' :: rest => (false, rest)
  | rest => (false, rest)

/-- The integer that a text stands for. -/
def readChars? (cs : List Char) : Option Int := do
  let (negative, body) := takeSign (strip cs)
  let ds ← grouped? body
  guard (ds.length ≤ maxDigits)
  let n : Int := digitsValue ds
  return if negative then -n else n

/-- The integer that a text stands for. -/
def read? (s : String) : Option Int := readChars? s.toList

end StorageMetadata.Decimal
