import StorageMetadata.Time.Timestamp

/-!
# Reading a timestamp

A date, and maybe one separating character whatever it is and a time of day with an optional offset
from universal time.  The date is `YYYY-MM-DD` or a week date `YYYY-Www` or `YYYY-Www-D`, and both
may be written without dashes.  The time is `HH`, `HH:MM` or `HH:MM:SS`, or the same without
colons, and maybe a fraction after a point or a comma; whatever number it stands behind, it is a
fraction of a second.  The offset is `Z`, or a sign and a time in the same form.  Without a time the
instant is the beginning of the day; without an offset the time is universal.

A time of day is read up to the first sign or `Z`, whichever it is.  What is left unread in front of
an offset is passed over, and a null character ends the text.

`read?` gives the instant in whole milliseconds, the rest cut off towards the past.
-/

namespace StorageMetadata.Timestamp

open StorageMetadata StorageMetadata.Text

/-! ### Dates -/

/-- The number with two digits. -/
def two? (a b : Char) : Option Nat := do return 10 * (← asciiDigit? a) + (← asciiDigit? b)

/-- The number with four digits. -/
def four? (a b c d : Char) : Option Nat := do return 100 * (← two? a b) + (← two? c d)

/-- The number of the day that a date names. -/
def day? : List Char → Option Nat
  | [a, b, c, d, '-', 'W', e, f, '-', g] => do
    dayOfWeekDate? (← four? a b c d) (← two? e f) (← asciiDigit? g)
  | [a, b, c, d, '-', e, f, '-', g, h] => do dayOfDate? (← four? a b c d) (← two? e f) (← two? g h)
  | [a, b, c, d, '-', 'W', e, f] => do dayOfWeekDate? (← four? a b c d) (← two? e f) 1
  | [a, b, c, d, 'W', e, f, g] => do
    dayOfWeekDate? (← four? a b c d) (← two? e f) (← asciiDigit? g)
  | [a, b, c, d, e, f, g, h] => do dayOfDate? (← four? a b c d) (← two? e f) (← two? g h)
  | [a, b, c, d, 'W', e, f] => do dayOfWeekDate? (← four? a b c d) (← two? e f) 1
  | _ => none

/-- Is `c` one of the ten ASCII digits? -/
def isDigit (c : Char) : Bool := (asciiDigit? c).isSome

/-- The length of the date at the front of a text, told from its fifth, sixth, ninth and eleventh
character and, for a week date without dashes, from the number of digits that follow. -/
def dateLength? (cs : List Char) : Option Nat :=
  let n := cs.length
  if n < 7 then none
  else if n = 7 then some 7
  else if cs[4]? = some '-' then
    if cs[5]? = some 'W' then
      if cs[8]? = some '-' then
        if n = 9 then none
        else if (cs[10]?.map isDigit).getD false then some 8
        else some 10
      else some 8
    else some 10
  else if cs[4]? = some 'W' then
    let digits := ((cs.drop 7).takeWhile isDigit).length
    if digits < 2 then some (7 + digits)
    else if (7 + digits) % 2 = 0 then some 7
    else some 8
  else some 8

/-! ### Times of day -/

/-- The millionths in the digits of a fraction of a second, and what is left behind them.  No digit
after the sixth counts. -/
def micros? (cs : List Char) : Option (Nat × List Char) := do
  let ds ← (cs.take 6).mapM asciiDigit?
  return (Decimal.digitsValue ds * Nat.pow 10 (6 - ds.length), (cs.drop 6).dropWhile isDigit)

/-- The numbers of a time, one and `more` at most, the millionths in the fraction behind them, and
what is left.  A single character behind a number is left, if it is one of ASCII.  A fraction begins
after a point or a comma, or where a fourth number would. -/
def numbers? (colons : Bool) : (more : Nat) → List Char → Option (List Nat × Nat × List Char)
  | more, a :: b :: rest => do
    let n ← two? a b
    match rest with
    | [] => return ([n], 0, [])
    | [c] =>
      guard (c.toNat < 128)
      return ([n], 0, [c])
    | c :: after =>
      if c = '.' ∨ c = ',' then
        let (micros, left) ← micros? after
        return ([n], micros, left)
      else
        guard (colons → c = ':')
        let next := if colons then after else c :: after
        match more with
        | 0 =>
          let (micros, left) ← micros? next
          return ([n], micros, left)
        | more + 1 =>
          let (ns, micros, left) ← numbers? colons more next
          return (n :: ns, micros, left)
  | _, _ => none

/-- Hours, minutes, seconds and millionths, without a bound on each. -/
structure Span where
  hours : Nat
  minutes : Nat
  seconds : Nat
  micros : Nat

/-- The length of a span in millionths of a second. -/
def Span.toMicros (s : Span) : Nat :=
  ((s.hours * 60 + s.minutes) * 60 + s.seconds) * 1000000 + s.micros

/-- The span that a time of day or an offset without its sign names, and what is left.  A colon after
the first number stands for one after the second, too. -/
def span? (cs : List Char) : Option (Span × List Char) := do
  let (numbers, micros, left) ← numbers? (cs[2]? = some ':') 2 cs
  return (⟨numbers.getD 0 0, numbers.getD 1 0, numbers.getD 2 0, micros⟩, left)

/-- Does a text end here? -/
def Ended (left : List Char) : Prop := left.head?.getD '\x00' = '\x00'

instance (left : List Char) : Decidable (Ended left) := by unfold Ended; infer_instance

/-- The millionths of a second in a day. -/
def microsPerDay : Nat := 86400000000

/-- The millionths of a second by which local time is ahead of universal time.  Less than a whole
second is not counted. -/
def offset? : List Char → Option Int
  | [] => some 0
  | 'Z' :: rest => do
    guard (Ended rest)
    return 0
  | sign :: rest => do
    guard (sign = '+' ∨ sign = '-')
    let (span, left) ← span? rest
    guard (Ended left ∧ span.toMicros < microsPerDay)
    let n : Int := if span.toMicros < 1000000 then 0 else span.toMicros
    return if sign = '-' then -n else n

/-- Does an offset begin with the character? -/
def startsOffset (c : Char) : Bool := c = '+' || c = '-' || c = 'Z'

/-- The millionths of a second from the beginning of the day in universal time. -/
def time? (cs : List Char) : Option Int := do
  let (clock, left) ← span? (cs.takeWhile fun c => !startsOffset c)
  guard (clock.hours < 24 ∧ clock.minutes < 60 ∧ clock.seconds < 60)
  let zone := cs.dropWhile fun c => !startsOffset c
  guard (zone = [] → Ended left)
  let ahead ← offset? zone
  return clock.toMicros - ahead

/-- The millionths of a second from the beginning of the day that are told behind a date. -/
def timeBehind? : List Char → Option Int
  | [] => some 0
  | _ :: clock => time? clock

/-! ### Instants -/

/-- The instant that a timestamp names, in milliseconds. -/
def readChars? (cs : List Char) : Option Int := do
  let n ← dateLength? cs
  let day ← day? (cs.take n)
  let micros ← timeBehind? (cs.drop n)
  return (((day : Int) - epochDay) * microsPerDay + micros) / 1000

/-- The instant that a timestamp names, in milliseconds. -/
def read? (s : String) : Option Int := readChars? s.toList

end StorageMetadata.Timestamp
