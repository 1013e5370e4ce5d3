import StorageMetadata.Time.Calendar
import StorageMetadata.Number.Decimal

/-!
# Timestamps

An instant is a number of milliseconds since the beginning of 1970, and its timestamp names the
day and the time of day in universal time with a fixed width for every part:

    YYYY-MM-DDTHH:MM:SS.mmmZ.

The instants that have one are those of the years 1 to 9999, from `firstMillis` to `lastMillis`.
-/

namespace StorageMetadata.Timestamp

open StorageMetadata

/-- The milliseconds of a day. -/
def millisPerDay : Int := 86400000

/-- The first instant of the year 1. -/
def firstMillis : Int := -62135596800000

/-- The last instant of the year 9999. -/
def lastMillis : Int := 253402300799999

/-- Does the instant lie in a year that a timestamp can name? -/
def InRange (millis : Int) : Prop := firstMillis ≤ millis ∧ millis ≤ lastMillis

instance (millis : Int) : Decidable (InRange millis) := by unfold InRange; infer_instance

/-- A time of day. -/
structure Clock where
  hour : Nat
  minute : Nat
  second : Nat
  milli : Nat
  deriving DecidableEq, Repr

/-- The time of day of the `n`-th millisecond of a day. -/
def Clock.ofMillis (n : Nat) : Clock :=
  ⟨n / 3600000, n / 60000 % 60, n / 1000 % 60, n % 1000⟩

/-- The date and the time of day of an instant. -/
def split (millis : Int) : Date × Clock :=
  let fromStart := (millis - firstMillis).toNat
  (Date.ofDayNumber (fromStart / millisPerDay.toNat),
    Clock.ofMillis (fromStart % millisPerDay.toNat))

/-- The characters of a timestamp. -/
def chars (d : Date) (c : Clock) : List Char :=
  Decimal.padded 4 d.year ++ '-' :: Decimal.padded 2 d.month ++ '-' :: Decimal.padded 2 d.day ++
    'T' :: Decimal.padded 2 c.hour ++ ':' :: Decimal.padded 2 c.minute ++
    ':' :: Decimal.padded 2 c.second ++ '.' :: Decimal.padded 3 c.milli ++ ['Z']

/-- The timestamp of an instant in range. -/
def write (millis : Int) : String :=
  let (d, c) := split millis
  String.ofList (chars d c)

/-- A timestamp has twenty-four characters. -/
theorem length_chars (d : Date) (c : Clock) : (chars d c).length = 24 := by
  simp [chars]

end StorageMetadata.Timestamp
