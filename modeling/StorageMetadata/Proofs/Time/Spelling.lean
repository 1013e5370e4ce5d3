import Mathlib.Data.Rat.Floor
import StorageMetadata.Proofs.Number.Decimal
import StorageMetadata.Proofs.Result
import StorageMetadata.Proofs.Time.Grammar
import StorageMetadata.Resource.Instant

/-!
# What a timestamp says

`Parts` are the numbers that a timestamp is made of, and `Parts.Spells` says which texts have them:

    YYYY-MM-DDTHH:MM:SS, then maybe .FFF with any number of digits, then maybe Z or ±HH:MM.

If there are such a day and such a time of day, the parts name an instant (`Parts.IsAt`): the days
are counted on the calendar, one page after another, and the fraction of a second is a fraction.
The text is then read as the last whole millisecond that is not later,

    p.Spells s.toList → p.Exists → p.IsAt x → read? s = some ⌊1000 * x⌋,

and otherwise it is not read at all.  What is written for an instant spells the parts that name it.
-/

namespace StorageMetadata

open StorageMetadata.Text StorageMetadata.Decimal

namespace Timestamp

/-! ### Fractions of a second -/

/-- Is this a point and the digits after it, or nothing if there are no digits? -/
def SpellsFraction (ds : List Nat) (cs : List Char) : Prop :=
  (ds = [] ∧ cs = []) ∨
    ∃ digits, digits ≠ [] ∧ digits.mapM asciiDigit? = some ds ∧ cs = '.' :: digits

/-- The millionths that are read are the whole ones of the fraction. -/
theorem spellsTail_of_spells {ds : List Nat} {cs : List Char} (h : SpellsFraction ds cs) :
    SpellsTail (1000000 * digitsValue ds / 10 ^ ds.length) [] cs := by
  rcases h with ⟨rfl, rfl⟩ | ⟨digits, some, read, rfl⟩
  · exact .nothing
  · exact .fraction (Or.inl rfl) ⟨digits, ds, read, some, rfl, (List.append_nil digits).symm,
      Or.inl rfl, nofun⟩

/-! ### Offsets -/

/-- What a timestamp says of its offset from universal time: nothing, that the time is universal, or
the hours and minutes by which local time is ahead or behind. -/
inductive Offset
  | missing
  | universal
  | ahead (hours minutes : Nat)
  | behind (hours minutes : Nat)

/-- The seconds by which local time is ahead of universal time. -/
def Offset.seconds : Offset → Int
  | .missing => 0
  | .universal => 0
  | .ahead hours minutes => 3600 * hours + 60 * minutes
  | .behind hours minutes => -(3600 * hours + 60 * minutes)

/-- Are these the sign and then the hours and minutes of an offset of less than a day? -/
def SpellsShift (sign : Char) (hours minutes : Nat) (cs : List Char) : Prop :=
  hours ≤ 23 ∧ minutes ≤ 59 ∧ ∃ hh mm, Decimal.Spells 2 hours hh ∧ Decimal.Spells 2 minutes mm ∧
    cs = sign :: hh ++ ':' :: mm

/-- Is this how the offset is written? -/
def Offset.Spells : Offset → List Char → Prop
  | .missing, cs => cs = []
  | .universal, cs => cs = ['Z']
  | .ahead hours minutes, cs => SpellsShift '+' hours minutes cs
  | .behind hours minutes, cs => SpellsShift '-' hours minutes cs

theorem offset?_of_spellsShift {sign : Char} {hours minutes : Nat} {cs : List Char}
    (signs : sign = '+' ∨ sign = '-') (h : SpellsShift sign hours minutes cs) :
    offset? cs = some (if sign = '-' then -((3600 * hours + 60 * minutes) * 1000000 : Int)
      else (3600 * hours + 60 * minutes) * 1000000) := by
  obtain ⟨hh, hm, _, _, hhours, hminutes, rfl⟩ := h
  obtain ⟨span, hspan⟩ : ∃ span : Span, span = ⟨hours, minutes, 0, 0⟩ := ⟨_, rfl⟩
  have length : span.toMicros = (3600 * hours + 60 * minutes) * 1000000 := by
    simp only [hspan, Span.toMicros]
    ring
  have short : span.toMicros < microsPerDay := by
    rw [length, microsPerDay]
    omega
  have counted : (if span.toMicros < 1000000 then 0 else span.toMicros : Int) =
      (3600 * hours + 60 * minutes) * 1000000 := by
    rw [length]
    split <;> omega
  have ended : Ended [] := rfl
  rw [← counted, List.cons_append]
  exact offset?_sign signs (hspan ▸ Span.spells_minutes hhours hminutes) ended short

theorem offset?_of_spells {o : Offset} {cs : List Char} (h : o.Spells cs) :
    offset? cs = some (o.seconds * 1000000) := by
  cases o with
  | missing => cases h; rfl
  | universal => cases h; rfl
  | ahead hours minutes =>
    rw [offset?_of_spellsShift (Or.inl rfl) h, Offset.seconds, if_neg (by decide)]
  | behind hours minutes =>
    rw [offset?_of_spellsShift (Or.inr rfl) h, Offset.seconds, if_pos rfl, Int.neg_mul]

/-! ### Times of day -/

/-- No character of a time of day begins an offset. -/
theorem not_startsOffset {c : Char} (h : (asciiDigit? c).isSome ∨ c = ':' ∨ c = '.') :
    (!startsOffset c) = true := by
  simp only [startsOffset, Bool.not_eq_true', Bool.or_eq_false_iff, decide_eq_false_iff_not]
  refine ⟨⟨?_, ?_⟩, ?_⟩ <;> rintro rfl <;> revert h <;> decide

theorem isSome_or_point_of_spellsFraction {ds : List Nat} {cs : List Char}
    (h : SpellsFraction ds cs) : ∀ c ∈ cs, (asciiDigit? c).isSome ∨ c = '.' := by
  rcases h with ⟨-, rfl⟩ | ⟨digits, -, read, rfl⟩
  · simp
  · intro c hc
    rcases List.mem_cons.1 hc with rfl | hc
    · exact Or.inr rfl
    · exact Or.inl ((run_of_mapM_asciiDigit? read).2 c hc)

/-- An offset begins where the time of day ends. -/
theorem takeWhile_of_spells {o : Offset} {cs : List Char} (h : o.Spells cs) :
    (cs.takeWhile fun c => !startsOffset c) = [] ∧ (cs.dropWhile fun c => !startsOffset c) = cs := by
  cases o with
  | missing => cases h; exact ⟨rfl, rfl⟩
  | universal => cases h; exact ⟨rfl, rfl⟩
  | ahead hours minutes =>
    obtain ⟨-, -, hh, mm, -, -, rfl⟩ := h
    exact ⟨rfl, rfl⟩
  | behind hours minutes =>
    obtain ⟨-, -, hh, mm, -, -, rfl⟩ := h
    exact ⟨rfl, rfl⟩

/-! ### Whole timestamps -/

/-- The numbers that a timestamp is made of; the fraction of a second is kept digit by digit. -/
structure Parts where
  date : Date
  hour : Nat
  minute : Nat
  second : Nat
  fraction : List Nat
  offset : Offset

namespace Parts

/-- Is this how the parts are written? -/
def Spells (p : Parts) (cs : List Char) : Prop :=
  ∃ year month day hour minute second fraction offset : List Char,
    (Decimal.Spells 4 p.date.year year ∧ Decimal.Spells 2 p.date.month month ∧
      Decimal.Spells 2 p.date.day day) ∧
    (Decimal.Spells 2 p.hour hour ∧ Decimal.Spells 2 p.minute minute ∧
      Decimal.Spells 2 p.second second ∧ SpellsFraction p.fraction fraction) ∧
    p.offset.Spells offset ∧
    cs = year ++ '-' :: month ++ '-' :: day ++ 'T' :: hour ++ ':' :: minute ++ ':' :: second ++
      fraction ++ offset

/-- Is there such a day, and does a clock show such a time? -/
def Exists (p : Parts) : Prop :=
  p.date.Exists ∧ p.hour ≤ 23 ∧ p.minute ≤ 59 ∧ p.second ≤ 59

instance (p : Parts) : Decidable p.Exists := by unfold Exists; infer_instance

/-- Is this the time at which universal clocks show what the parts say, in seconds since 1970 began?
The days are counted on the calendar, and what local time is ahead is taken off. -/
def IsAt (p : Parts) (x : ℚ) : Prop :=
  ∃ days : Int, Date.Apart Date.epoch p.date days ∧
    x = 86400 * days + 3600 * p.hour + 60 * p.minute + p.second +
      digitsValue p.fraction / 10 ^ p.fraction.length - p.offset.seconds

/-- The whole seconds since 1970 began. -/
def seconds (p : Parts) : Int :=
  86400 * ((p.date.dayNumber : Int) - epochDay) + 3600 * p.hour + 60 * p.minute + p.second -
    p.offset.seconds

theorem isAt_iff {p : Parts} (h : p.Exists) {x : ℚ} :
    p.IsAt x ↔ x = p.seconds + digitsValue p.fraction / 10 ^ p.fraction.length := by
  have epoch : Date.epoch.Proper := Date.Exists.proper (by decide)
  have value : ∀ days : Int, days = (p.date.dayNumber : Int) - epochDay →
      ((86400 * days + 3600 * p.hour + 60 * p.minute + p.second +
        digitsValue p.fraction / 10 ^ p.fraction.length - p.offset.seconds : ℚ) =
      p.seconds + digitsValue p.fraction / 10 ^ p.fraction.length) := by
    rintro _ rfl
    simp only [seconds]
    push_cast
    ring
  simp only [IsAt, Date.apart_iff epoch h.1.proper, Date.dayNumber_epoch]
  constructor
  · rintro ⟨days, count, rfl⟩
    exact value days count
  · rintro rfl
    exact ⟨_, rfl, (value _ rfl).symm⟩

/-- What is read is the last whole millisecond that is not later. -/
theorem floor_of_isAt {p : Parts} (h : p.Exists) {x : ℚ} (named : p.IsAt x) :
    ⌊1000 * x⌋ = (p.seconds * 1000000 +
      ((1000000 * digitsValue p.fraction / 10 ^ p.fraction.length : Nat) : Int)) / 1000 := by
  obtain rfl := (isAt_iff h).1 named
  obtain ⟨v, hv⟩ : ∃ v, v = digitsValue p.fraction := ⟨_, rfl⟩
  obtain ⟨k, hk⟩ : ∃ k, k = p.fraction.length := ⟨_, rfl⟩
  rw [← hv, ← hk]
  have thousandths : 1000000 * v / 10 ^ k / 1000 = 1000 * v / 10 ^ k := by
    rw [Nat.div_div_eq_div_mul, show 1000000 * v = 1000 * v * 1000 by omega,
      Nat.mul_div_mul_right _ _ (by decide)]
  calc ⌊(1000 : ℚ) * (p.seconds + (v : ℚ) / 10 ^ k)⌋
      = ⌊((1000 * v : Nat) : ℚ) / ((10 ^ k : Nat) : ℚ) + ((p.seconds * 1000 : Int) : ℚ)⌋ := by
        congr 1
        push_cast
        ring
    _ = ((1000 * v / 10 ^ k : Nat) : Int) + p.seconds * 1000 := by
        rw [Int.floor_add_intCast, Rat.floor_natCast_div_natCast]
        rfl
    _ = (p.seconds * 1000000 + ((1000000 * v / 10 ^ k : Nat) : Int)) / 1000 := by
        rw [show p.seconds * 1000000 = p.seconds * 1000 * 1000 by ring,
          Int.add_comm (p.seconds * 1000 * 1000), Int.add_mul_ediv_right _ _ (by decide),
          ← thousandths]
        rfl

end Parts

/-! ### Reading -/

theorem time?_of_spells {hour minute second : Nat} {hh mm ss fraction offset : List Char}
    {ds : List Nat} {o : Offset} (hhour : Decimal.Spells 2 hour hh)
    (hminute : Decimal.Spells 2 minute mm) (hsecond : Decimal.Spells 2 second ss)
    (hfraction : SpellsFraction ds fraction) (hoffset : o.Spells offset) :
    time? (hh ++ ':' :: mm ++ ':' :: ss ++ fraction ++ offset) =
      if hour ≤ 23 ∧ minute ≤ 59 ∧ second ≤ 59 then
        some ((3600 * hour + 60 * minute + second - o.seconds) * 1000000 +
          ((1000000 * digitsValue ds / 10 ^ ds.length : Nat) : Int))
      else none := by
  have clock : ∀ c ∈ hh ++ ':' :: mm ++ ':' :: ss ++ fraction,
      (!startsOffset c) = true := by
    intro c hc
    simp only [List.mem_append, List.mem_cons, or_assoc] at hc
    apply not_startsOffset
    rcases hc with h | rfl | h | rfl | h | h
    · exact Or.inl (hhour.isSome c h)
    · exact Or.inr (Or.inl rfl)
    · exact Or.inl (hminute.isSome c h)
    · exact Or.inr (Or.inl rfl)
    · exact Or.inl (hsecond.isSome c h)
    · exact (isSome_or_point_of_spellsFraction hfraction c h).imp_right Or.inr
  obtain ⟨front, back⟩ := takeWhile_of_spells hoffset
  have shown : span? (hh ++ ':' :: mm ++ ':' :: ss ++ fraction) =
      some (⟨hour, minute, second, 1000000 * digitsValue ds / 10 ^ ds.length⟩, []) := by
    simpa using span?_eq_some_iff.2
      (Span.spells_seconds hhour hminute hsecond (spellsTail_of_spells hfraction))
  have ended : Ended [] := rfl
  unfold time? guard
  simp only [List.takeWhile_append_of_pos clock, List.dropWhile_append_of_pos clock, front, back,
    List.append_nil, shown, offset?_of_spells hoffset, Nat.lt_succ_iff, Option.bind_eq_bind,
    Option.bind_some, Option.pure_def, ended, implies_true, if_true]
  split
  next =>
    simp only [Option.bind_some, Span.toMicros]
    congr 1
    push_cast
    ring
  next => rfl

theorem readChars?_dashed {a b c d e f g i t : Char} {rest : List Char} (h : e ≠ 'W') :
    readChars? (a :: b :: c :: d :: '-' :: e :: f :: '-' :: g :: i :: t :: rest) =
      (day? [a, b, c, d, '-', e, f, '-', g, i]).bind fun day => (time? rest).map fun micros =>
        (((day : Int) - epochDay) * microsPerDay + micros) / 1000 := by
  rw [readChars?, dateLength?_dashed h]
  simp only [Option.map_eq_bind]
  rfl

/-- The instant that is read from spelled parts, if there is one. -/
theorem readChars?_of_spells {p : Parts} {cs : List Char} (h : p.Spells cs) :
    readChars? cs = if p.Exists then
        some ((p.seconds * 1000000 +
          ((1000000 * digitsValue p.fraction / 10 ^ p.fraction.length : Nat) : Int)) / 1000)
      else none := by
  obtain ⟨_, _, _, hh, mm, ss, fraction, offset, ⟨hyear, hmonth, hday⟩,
    ⟨hhour, hminute, hsecond, hfraction⟩, hoffset, rfl⟩ := h
  obtain ⟨a, b, c, d, rfl, habcd⟩ := exists_of_spells_four hyear
  obtain ⟨e, f, rfl, hef⟩ := exists_of_spells_two hmonth
  obtain ⟨g, i, rfl, hgi⟩ := exists_of_spells_two hday
  -- A digit is not the letter of a week date.
  have notWeek : e ≠ 'W' := by
    rintro rfl
    exact absurd (hmonth.isSome 'W' (by simp)) (by decide)
  obtain ⟨rest, hrest⟩ : ∃ rest, rest = hh ++ ':' :: mm ++ ':' :: ss ++ fraction ++ offset :=
    ⟨_, rfl⟩
  have layout : [a, b, c, d] ++ '-' :: [e, f] ++ '-' :: [g, i] ++ 'T' :: hh ++ ':' :: mm ++
      ':' :: ss ++ fraction ++ offset =
        a :: b :: c :: d :: '-' :: e :: f :: '-' :: g :: i :: 'T' :: rest := by
    simp [hrest]
  have time := time?_of_spells hhour hminute hsecond hfraction hoffset
  rw [← hrest] at time
  rw [layout, readChars?_dashed notWeek, time, day?_dashed notWeek, habcd, hef, hgi]
  show (dayOfDate? p.date.year p.date.month p.date.day).bind _ = _
  unfold dayOfDate?
  by_cases date : p.date.Exists
  · by_cases clock : p.hour ≤ 23 ∧ p.minute ≤ 59 ∧ p.second ≤ 59
    · have shown : p.Exists := ⟨date, clock⟩
      rw [if_pos date, if_pos clock, if_pos shown]
      simp only [Option.bind_some, Option.map_some, Parts.seconds, microsPerDay]
      congr 2
      push_cast
      ring
    · rw [if_pos date, if_neg clock, if_neg fun h : p.Exists => clock h.2]
      rfl
  · rw [if_neg date, if_neg fun h : p.Exists => date h.1]
    rfl

theorem readChars?_of_isAt {p : Parts} {cs : List Char} (h : p.Spells cs) (shown : p.Exists)
    {x : ℚ} (named : p.IsAt x) : readChars? cs = some ⌊1000 * x⌋ := by
  rw [readChars?_of_spells h, if_pos shown, Parts.floor_of_isAt shown named]

/-! ### Writing -/

/-- The characters of a timestamp spell the date, the clock and the end of universal time. -/
theorem exists_spells_chars {d : Date} {c : Clock} (hd : d.Exists) (hc : c.Valid) :
    ∃ ds, ds.length = 3 ∧ digitsValue ds = c.milli ∧
      (⟨d, c.hour, c.minute, c.second, ds, .universal⟩ : Parts).Spells (chars d c) := by
  have short := daysInMonth_le d.year d.month
  simp only [Date.Exists, lastYear] at hd
  obtain ⟨hour, minute, second, milli⟩ := hc
  obtain ⟨ds, read, length, value⟩ := @spells_padded 3 c.milli milli
  refine ⟨ds, length, value, _, _, _, _, _, _, '.' :: padded 3 c.milli, ['Z'],
    ⟨spells_padded (Nat.lt_succ_of_le hd.2.1), spells_padded ?_, spells_padded ?_⟩,
    ⟨spells_padded ?_, spells_padded ?_, spells_padded ?_,
      Or.inr ⟨padded 3 c.milli, ?_, read, rfl⟩⟩, rfl, rfl⟩
  · show d.month < 100
    omega
  · show d.day < 100
    omega
  · show c.hour < 100
    omega
  · show c.minute < 100
    omega
  · show c.second < 100
    omega
  · exact List.ne_nil_of_length_pos (by rw [length_padded]; decide)

/-- What is written for an instant spells parts that name it. -/
theorem exists_spells_write {n : Int} (h : InRange n) :
    ∃ p : Parts, p.Spells (write n).toList ∧ p.Exists ∧ p.fraction.length = 3 ∧
      p.offset = .universal ∧ p.IsAt (n / 1000) := by
  obtain ⟨date, day, clock⟩ := split_spec h
  obtain ⟨m, hm⟩ : ∃ m, m = (n - firstMillis).toNat := ⟨_, rfl⟩
  rw [← hm] at day clock
  have valid : (split n).2.Valid :=
    clock ▸ Clock.valid_ofMillis (Nat.mod_lt _ (by decide))
  obtain ⟨ds, length, value, spelled⟩ := exists_spells_chars date valid
  have text : (write n).toList = chars (split n).1 (split n).2 := String.toList_ofList
  obtain ⟨p, hp⟩ : ∃ p : Parts, p = ⟨(split n).1, (split n).2.hour, (split n).2.minute,
    (split n).2.second, ds, .universal⟩ := ⟨_, rfl⟩
  have shown : p.Exists := by
    rw [hp]
    exact ⟨date, Nat.le_of_lt_succ valid.1, Nat.le_of_lt_succ valid.2.1,
      Nat.le_of_lt_succ valid.2.2.1⟩
  have whole : n = p.seconds * 1000 + (split n).2.milli := by
    simp only [InRange, firstMillis, lastMillis] at h hm
    simp only [hp, Parts.seconds, Offset.seconds, day, clock, Clock.ofMillis, epochDay]
    omega
  have named : (n : ℚ) / 1000 =
      p.seconds + digitsValue p.fraction / 10 ^ p.fraction.length := by
    have rational : (n : ℚ) = p.seconds * 1000 + (split n).2.milli := by exact_mod_cast whole
    rw [rational, hp, value, length]
    ring
  refine ⟨p, ?_, shown, ?_, ?_, (Parts.isAt_iff shown).2 named⟩
  · rw [text, hp]
    exact spelled
  · rw [hp]
    exact length
  · rw [hp]

end Timestamp

/-! ### The fields of a resource -/

namespace Resource

open Timestamp

/-- **Timestamps are written and read back.**  A whole number of milliseconds is refused, by the name
of its field, when it lies outside the years 1 to 9999.  Otherwise what is written has twenty-four
characters, three of them thousandths; it names a day of the calendar, a time that a clock shows and
by both the instant itself; and every field that holds it is read as the instant again. -/
theorem writeInstant_int_spec (field : String) (m : Int) :
    (-62135596800000 ≤ m ∧ m ≤ 253402300799999 →
      ∃ (s : String) (p : Parts), writeInstant field (.int m) = .ok s ∧ s.length = 24 ∧
        (p.Spells s.toList ∧ p.Exists ∧ p.fraction.length = 3 ∧ p.offset = .universal ∧
          p.IsAt (m / 1000)) ∧
        ∀ field', readInstant field' (.text s) = .ok m) ∧
    (¬(-62135596800000 ≤ m ∧ m ≤ 253402300799999) →
      writeInstant field (.int m) =
        .error (.wireFormat .timestampRange field (.int m) (some .outOfRange))) := by
  constructor
  · intro range
    obtain ⟨p, named⟩ := exists_spells_write range
    refine ⟨Timestamp.write m, p, ?_, ?_, named, fun field' => ?_⟩
    · rw [writeInstant_int]
      exact if_pos range
    · exact (congrArg List.length String.toList_ofList).trans (length_chars _ _)
    · rw [readInstant, read?_write range]
  · intro range
    rw [writeInstant_int]
    exact if_neg range

/-- **A timestamp is read as the instant that it names.**  If there are such a day and such a time of
day, the parts name one instant, and what is read is the last millisecond that is not later; if not,
the field and its text are refused.  Two texts that name one instant are read as the same. -/
theorem readInstant_of_spells {p : Parts} {s : String} (h : p.Spells s.toList) (field : String) :
    (p.Exists → (∃ x, p.IsAt x) ∧
      ∀ x, p.IsAt x → readInstant field (.text s) = .ok ⌊1000 * x⌋) ∧
    (¬p.Exists → readInstant field (.text s) =
      .error (.wireFormat .timestamp field (.text s) (some .malformed))) ∧
    (p.Exists → ∀ (q : Parts) (t : String), q.Spells t.toList → q.Exists →
      ∀ x, p.IsAt x → q.IsAt x →
        readInstant field (.text t) = readInstant field (.text s)) := by
  have instant : ∀ {p : Parts} {s : String} {x : ℚ}, p.Spells s.toList → p.Exists → p.IsAt x →
      readInstant field (.text s) = .ok ⌊1000 * x⌋ := by
    intro p s x h shown named
    rw [readInstant, Timestamp.read?, readChars?_of_isAt h shown named]
  refine ⟨fun shown => ⟨⟨_, (Parts.isAt_iff shown).2 rfl⟩, fun x => instant h shown⟩,
    fun none => ?_, fun shown q t hq shown' x named named' => ?_⟩
  · rw [readInstant, Timestamp.read?, readChars?_of_spells h, if_neg none]
  · rw [instant hq shown' named', instant h shown named]

/-- Less than a millisecond before midnight in a zone that is ahead, the same instant in universal
time, and a day that 1969 did not have. -/
theorem readInstant_before_epoch :
    readInstant "updated" (.text "1969-12-31T23:59:59.99951+05:30") = .ok (-19800001) ∧
      readInstant "updated" (.text "1969-12-31T18:29:59.99951Z") =
        readInstant "updated" (.text "1969-12-31T23:59:59.99951+05:30") ∧
      readInstant "updated" (.text "1969-02-29T00:00:00") =
        .error (.wireFormat .timestamp "updated" (.text "1969-02-29T00:00:00")
          (some .malformed)) := by
  let p : Parts := ⟨⟨1969, 12, 31⟩, 23, 59, 59, [9, 9, 9, 5, 1], .ahead 5 30⟩
  let q : Parts := ⟨⟨1969, 12, 31⟩, 18, 29, 59, [9, 9, 9, 5, 1], .universal⟩
  let r : Parts := ⟨⟨1969, 2, 29⟩, 0, 0, 0, [], .missing⟩
  have hp : p.Spells "1969-12-31T23:59:59.99951+05:30".toList := by
    refine ⟨['1', '9', '6', '9'], ['1', '2'], ['3', '1'], ['2', '3'], ['5', '9'], ['5', '9'],
      ['.', '9', '9', '9', '5', '1'], ['+', '0', '5', ':', '3', '0'],
      ⟨⟨_, rfl, rfl, rfl⟩, ⟨_, rfl, rfl, rfl⟩, ⟨_, rfl, rfl, rfl⟩⟩,
      ⟨⟨_, rfl, rfl, rfl⟩, ⟨_, rfl, rfl, rfl⟩, ⟨_, rfl, rfl, rfl⟩,
        Or.inr ⟨_, by decide, rfl, rfl⟩⟩,
      ⟨by decide, by decide, ['0', '5'], ['3', '0'], ⟨_, rfl, rfl, rfl⟩, ⟨_, rfl, rfl, rfl⟩, rfl⟩,
      by decide⟩
  have hq : q.Spells "1969-12-31T18:29:59.99951Z".toList := by
    refine ⟨['1', '9', '6', '9'], ['1', '2'], ['3', '1'], ['1', '8'], ['2', '9'], ['5', '9'],
      ['.', '9', '9', '9', '5', '1'], ['Z'],
      ⟨⟨_, rfl, rfl, rfl⟩, ⟨_, rfl, rfl, rfl⟩, ⟨_, rfl, rfl, rfl⟩⟩,
      ⟨⟨_, rfl, rfl, rfl⟩, ⟨_, rfl, rfl, rfl⟩, ⟨_, rfl, rfl, rfl⟩,
        Or.inr ⟨_, by decide, rfl, rfl⟩⟩,
      rfl, by decide⟩
  have hr : r.Spells "1969-02-29T00:00:00".toList := by
    refine ⟨['1', '9', '6', '9'], ['0', '2'], ['2', '9'], ['0', '0'], ['0', '0'], ['0', '0'],
      [], [],
      ⟨⟨_, rfl, rfl, rfl⟩, ⟨_, rfl, rfl, rfl⟩, ⟨_, rfl, rfl, rfl⟩⟩,
      ⟨⟨_, rfl, rfl, rfl⟩, ⟨_, rfl, rfl, rfl⟩, ⟨_, rfl, rfl, rfl⟩, Or.inl ⟨rfl, rfl⟩⟩,
      rfl, by decide⟩
  have eve : Date.Apart Date.epoch ⟨1969, 12, 31⟩ (-1) := by
    show Date.epoch = Date.next ⟨1969, 12, 31⟩
    decide
  have named : p.IsAt (-1980000049 / 100000) :=
    ⟨-1, eve, by norm_num [p, Offset.seconds, digitsValue]⟩
  have named' : q.IsAt (-1980000049 / 100000) :=
    ⟨-1, eve, by norm_num [q, Offset.seconds, digitsValue]⟩
  refine ⟨?_, ?_, ?_⟩
  · rw [((readInstant_of_spells hp "updated").1 (by decide)).2 _ named]
    norm_num
  · exact (readInstant_of_spells hp "updated").2.2 (by decide) q _ hq (by decide) _ named named'
  · exact (readInstant_of_spells hr "updated").2.1 (by decide)

end Resource

end StorageMetadata
