import StorageMetadata.Failure
import StorageMetadata.Value.Equality
import StorageMetadata.Number.Literal

/-!
# Sizes for people

A size of less than 1024 octets is shown as it is given.  A larger one is divided by the largest
power of 1024 up to the fifth that it reaches, and the exact quotient is rounded to one decimal
place, a half to the even neighbour; so just below the next power the quotient may be shown as
1024.0.
-/

namespace StorageMetadata.Display

/-- The units of a size, each 1024 times the one before it. -/
def units : List String := ["B", "KiB", "MiB", "GiB", "TiB", "PiB"]

/-- The power of the largest unit. -/
def lastUnit : Nat := 5

/-- The power of 1024, up to the last unit's, that the quotient `num / den` reaches. -/
def unitOf (num den : Nat) : Nat :=
  ((List.range lastUnit).takeWhile fun k => Nat.pow 1024 (k + 1) * den ≤ num).length

/-- The quotient `num / den` with one decimal place. -/
def oneDecimal (num den : Nat) : List Char :=
  let tenths := roundHalfEven (10 * num) den
  Decimal.digits (tenths / 10) ++ ['.', Text.digitChar (tenths % 10)]

/-- The number of 64 bits that a size stands for. -/
def sizeNumber (size : Value) : Result Binary64 :=
  match size with
  | .float x => .ok x
  | .text s => match Binary64.read? 0 s with
    | some x => .ok x
    | none => fault .malformed
  | _ => match size.toInt? with
    | none => fault .mistyped
    | some n => match Binary64.ofInt n with
      | .infinite _ => fault .outOfRange
      | x => .ok x

/-- A size that is a number, where `shown` is the size as it is given. -/
def numberText (shown : String) : Binary64 → String
  | .finite negative m e =>
    let num := Binary64.numerator m e
    let den := Binary64.denominator e
    match unitOf num den with
    | 0 => shown ++ " B"
    | k =>
      let quotient := oneDecimal num (den * Nat.pow 1024 k)
      String.ofList (if negative then '-' :: quotient else quotient) ++ " " ++ units.getD k ""
  | x => x.write ++ " " ++ units.getD lastUnit ""

/-- The text of a size; nothing is shown as a dash. -/
def sizeText (size : Value) : Result String :=
  if size = .null then .ok "-"
  else do return numberText size.display (← sizeNumber size)

end StorageMetadata.Display
