import StorageMetadata.Proofs.Time.Timestamp
import StorageMetadata.Proofs.Time.Week

/-!
# What a timestamp names

`Names` says which texts are timestamps and which instant each of them names, form by form and
without a reader: a date by year, month and day or by a week, and then maybe a separator, a time of
day and an offset.  Days are counted on the calendar from the first of January 1970.

A week date may be the beginning of a longer one, so what follows decides between them: no digit
follows a week date with a day of the week if there are dashes, and no digit or an odd number of them
if there are none.

What is read is the instant in whole milliseconds, the rest cut off towards the past,

    read? s = some n ↔ ∃ t, Names t s.toList ∧ n = t / 1000.
-/

namespace StorageMetadata.Timestamp

open StorageMetadata StorageMetadata.Text StorageMetadata.Decimal

/-! ### Dates -/

/-- Does the text begin with no digit or with an odd number of them? -/
def BeginsOdd (rest : List Char) : Prop :=
  (rest.takeWhile isDigit).length = 0 ∨ (rest.takeWhile isDigit).length % 2 = 1

/-- Does the text name the day, by year, month and day or by a week, all or none with dashes, and with
this rest behind it? -/
inductive SpellsDate (rest : List Char) : Date → List Char → Prop
  | calendar {d : Date} {dash yyyy mm dd : List Char} (dashes : dash = [] ∨ dash = ['-'])
      (year : Decimal.Spells 4 d.year yyyy) (month : Decimal.Spells 2 d.month mm)
      (day : Decimal.Spells 2 d.day dd) (found : d.Exists) :
      SpellsDate rest d (yyyy ++ (dash ++ (mm ++ (dash ++ dd))))
  | week {d : Date} {y w : Nat} {dash yyyy ww : List Char} (dashes : dash = [] ∨ dash = ['-'])
      (year : Decimal.Spells 4 y yyyy) (week : Decimal.Spells 2 w ww) (found : d.InWeek y w 1)
      (ends : dash = [] → BeginsOdd rest) : SpellsDate rest d (yyyy ++ (dash ++ 'W' :: ww))
  | weekday {d : Date} {y w k : Nat} {dash yyyy ww kk : List Char} (dashes : dash = [] ∨ dash = ['-'])
      (year : Decimal.Spells 4 y yyyy) (week : Decimal.Spells 2 w ww)
      (weekday : Decimal.Spells 1 k kk) (found : d.InWeek y w k)
      (ends : if dash = [] then BeginsOdd rest else ∀ c ∈ rest.head?, isDigit c = false) :
      SpellsDate rest d (yyyy ++ (dash ++ 'W' :: (ww ++ (dash ++ kk))))

/-! ### Times of day -/

/-- Does the text name the offset by which local time is ahead of universal time, in millionths of a
second?  It is less than a day, and less than a second is none at all. -/
inductive SpellsOffset : Int → List Char → Prop
  | universal {rest : List Char} (ended : Ended rest) : SpellsOffset 0 ('Z' :: rest)
  | none {s : Span} {sign : Char} {left cs : List Char} (signs : sign = '+' ∨ sign = '-')
      (span : s.Spells left cs) (ended : Ended left) (short : s.toMicros < 1000000) :
      SpellsOffset 0 (sign :: cs)
  | ahead {s : Span} {left cs : List Char} (span : s.Spells left cs) (ended : Ended left)
      (long : 1000000 ≤ s.toMicros) (short : s.toMicros < 86400000000) :
      SpellsOffset s.toMicros ('+' :: cs)
  | behind {s : Span} {left cs : List Char} (span : s.Spells left cs) (ended : Ended left)
      (long : 1000000 ≤ s.toMicros) (short : s.toMicros < 86400000000) :
      SpellsOffset (-s.toMicros) ('-' :: cs)

/-- Does a clock show the span, named by a text without a sign or a `Z`? -/
structure Shows (s : Span) (left cs : List Char) : Prop where
  spells : s.Spells left cs
  shown : s.hours < 24 ∧ s.minutes < 60 ∧ s.seconds < 60
  noOffset : '+' ∉ cs ∧ '-' ∉ cs ∧ 'Z' ∉ cs

/-- Does the text name the time of day in universal time, in millionths of a second from the beginning
of the day?  What is left behind the time of day in front of an offset is passed over. -/
inductive SpellsTime : Int → List Char → Prop
  | universal {s : Span} {left cs : List Char} (clock : Shows s left cs) (ended : Ended left) :
      SpellsTime s.toMicros cs
  | offset {s : Span} {n : Int} {left cs zone : List Char} (clock : Shows s left cs)
      (offset : SpellsOffset n zone) : SpellsTime (s.toMicros - n) (cs ++ zone)

/-! ### Instants -/

/-- Does the text name the instant, in millionths of a second since 1970 began?  The days are counted
on the calendar, and a day begins at midnight. -/
inductive Names : Int → List Char → Prop
  | day {d : Date} {days : Int} {date : List Char} (named : SpellsDate [] d date)
      (count : Date.Apart Date.epoch d days) : Names (86400000000 * days) date
  | time {d : Date} {days micros : Int} {c : Char} {date clock : List Char}
      (named : SpellsDate (c :: clock) d date) (count : Date.Apart Date.epoch d days)
      (time : SpellsTime micros clock) : Names (86400000000 * days + micros) (date ++ c :: clock)

/-! ### Reading a date -/

section

variable {a b c d e f g h : Char} {rest : List Char}

theorem dateLength?_dashed {i : Char} (week : e ≠ 'W') :
    dateLength? (a :: b :: c :: d :: '-' :: e :: f :: '-' :: g :: i :: rest) = some 10 := by
  have notWeek : (some e = some 'W') = False := by simpa using week
  simp [dateLength?, notWeek]

theorem dateLength?_plain (dash : e ≠ '-') (week : e ≠ 'W') :
    dateLength? (a :: b :: c :: d :: e :: f :: g :: h :: rest) = some 8 := by
  have notDash : (some e = some '-') = False := by simpa using dash
  have notWeek : (some e = some 'W') = False := by simpa using week
  simp [dateLength?, notDash, notWeek]

theorem dateLength?_dashedWeek :
    dateLength? (a :: b :: c :: d :: '-' :: 'W' :: e :: f :: rest) =
      if rest.head? = some '-' then
        if rest.length = 1 then none
        else if (rest[2]?.map isDigit).getD false then some 8 else some 10
      else some 8 := by
  cases rest with
  | nil => rfl
  | cons x rest => simp [dateLength?]

theorem dateLength?_plainWeek :
    dateLength? (a :: b :: c :: d :: 'W' :: e :: f :: rest) =
      if (rest.takeWhile isDigit).length < 2 then some (7 + (rest.takeWhile isDigit).length)
      else if (7 + (rest.takeWhile isDigit).length) % 2 = 0 then some 7 else some 8 := by
  cases rest with
  | nil => rfl
  | cons x rest => simp [dateLength?]

end

theorem isDigit_of_spells {width n : Nat} {cs : List Char} (h : Decimal.Spells width n cs) :
    ∀ c ∈ cs, isDigit c = true := h.isSome

theorem ne_of_isDigit {x y : Char} (h : isDigit x = true) (hy : isDigit y = false) : x ≠ y := by
  rintro rfl
  rw [h] at hy
  cases hy

theorem exists_of_spells_one {n : Nat} {cs : List Char} (h : Decimal.Spells 1 n cs) :
    ∃ c, cs = [c] ∧ asciiDigit? c = some n := by
  obtain ⟨c, rfl⟩ := List.length_eq_one_iff.1 h.length_eq
  obtain ⟨ds, read, -, rfl⟩ := h
  rw [List.mapM_cons, List.mapM_nil] at read
  obtain ⟨d, hd, read⟩ := Option.bind_eq_some_iff.1 read
  cases read
  exact ⟨c, rfl, by simpa [digitsValue] using hd⟩

theorem spells_one {n : Nat} {c : Char} (h : asciiDigit? c = some n) : Decimal.Spells 1 n [c] :=
  ⟨[n], by rw [List.mapM_cons, List.mapM_nil, h]; rfl, rfl, by simp [digitsValue]⟩

/-- May the text stand behind a date: is it nothing, or a separator and at least two digits? -/
def FollowsDate (rest : List Char) : Prop :=
  rest = [] ∨ ∃ c x y more, rest = c :: x :: y :: more ∧ isDigit x = true ∧ isDigit y = true

theorem length_takeWhile_isDigit_cons {c : Char} (h : isDigit c = true) (rest : List Char) :
    ((c :: rest).takeWhile isDigit).length = (rest.takeWhile isDigit).length + 1 := by
  rw [List.takeWhile_cons_of_pos h, List.length_cons]

/-- A single digit is never a separator with digits behind it. -/
theorem FollowsDate.length_ne_one {rest : List Char} (h : FollowsDate rest) :
    (rest.takeWhile isDigit).length ≠ 1 := by
  rcases h with rfl | ⟨c, x, y, more, rfl, hx, hy⟩
  · simp
  · cases hc : isDigit c with
    | false => simp [hc]
    | true =>
      rw [length_takeWhile_isDigit_cons hc, length_takeWhile_isDigit_cons hx,
        length_takeWhile_isDigit_cons hy]
      omega

/-- A date that a text names is found in front of what may follow it. -/
theorem SpellsDate.read {rest date : List Char} {day : Date} (h : SpellsDate rest day date)
    (follows : FollowsDate rest) :
    dateLength? (date ++ rest) = some date.length ∧ day? date = some day.dayNumber := by
  have single := follows.length_ne_one
  cases h with
  | calendar dashes year month number found =>
    obtain ⟨a, b, c, d, rfl, hyear⟩ := exists_of_spells_four year
    obtain ⟨e, f, rfl, hmonth⟩ := exists_of_spells_two month
    obtain ⟨g, i, rfl, hday⟩ := exists_of_spells_two number
    have digit : isDigit e = true := isDigit_of_spells month e List.mem_cons_self
    have day := dayOfDate?_eq_some_iff.2 ⟨found, rfl⟩
    rcases dashes with rfl | rfl
    · refine ⟨dateLength?_plain (ne_of_isDigit digit rfl) (ne_of_isDigit digit rfl), ?_⟩
      show day? [a, b, c, d, e, f, g, i] = _
      rw [day?.eq_5 _ _ _ _ _ _ _ _ (fun dash _ => ne_of_isDigit digit rfl dash)
        (ne_of_isDigit digit rfl), hyear, hmonth, hday]
      exact day
    · refine ⟨dateLength?_dashed (ne_of_isDigit digit rfl), ?_⟩
      show day? [a, b, c, d, '-', e, f, '-', g, i] = _
      rw [day?_dashed (ne_of_isDigit digit rfl), hyear, hmonth, hday]
      exact day
  | week dashes year week found ends =>
    obtain ⟨a, b, c, d, rfl, hyear⟩ := exists_of_spells_four year
    obtain ⟨e, f, rfl, hweek⟩ := exists_of_spells_two week
    have day := dayOfWeekDate?_eq_some_iff.2 ⟨day, found, rfl⟩
    rcases dashes with rfl | rfl
    · constructor
      · show dateLength? (a :: b :: c :: d :: 'W' :: e :: f :: rest) = some 7
        rw [dateLength?_plainWeek]
        rcases ends rfl with none | odd
        · rw [none]
          rfl
        · rw [if_neg (by omega), if_pos (by omega)]
      · show day? [a, b, c, d, 'W', e, f] = _
        rw [day?, hyear, hweek]
        exact day
    · constructor
      · refine dateLength?_dashedWeek.trans ?_
        rcases follows with rfl | ⟨_, _, y, more, rfl, -, digit⟩
        · rfl
        · simp [digit]
      · show day? [a, b, c, d, '-', 'W', e, f] = _
        rw [day?, hyear, hweek]
        exact day
  | weekday dashes year week weekday found ends =>
    obtain ⟨a, b, c, d, rfl, hyear⟩ := exists_of_spells_four year
    obtain ⟨e, f, rfl, hweek⟩ := exists_of_spells_two week
    obtain ⟨g, rfl, hday⟩ := exists_of_spells_one weekday
    have digit : isDigit g = true := isDigit_of_spells weekday g List.mem_cons_self
    have day := dayOfWeekDate?_eq_some_iff.2 ⟨day, found, rfl⟩
    rcases dashes with rfl | rfl
    · constructor
      · show dateLength? (a :: b :: c :: d :: 'W' :: e :: f :: g :: rest) = some 8
        rw [if_pos rfl] at ends
        rw [dateLength?_plainWeek, length_takeWhile_isDigit_cons digit]
        rcases ends with none | odd
        · rw [none]
          rfl
        · rw [if_neg (by omega), if_neg (by omega)]
      · show day? [a, b, c, d, 'W', e, f, g] = _
        rw [day?, hyear, hweek, hday]
        exact day
    · constructor
      · refine dateLength?_dashedWeek.trans ?_
        rw [if_neg (List.cons_ne_nil _ _)] at ends
        cases rest with
        | nil => rfl
        | cons x rest => simp [ends x rfl]
      · show day? [a, b, c, d, '-', 'W', e, f, '-', g] = _
        rw [day?, hyear, hweek, hday]
        exact day

section

variable {a b c d e f g : Char} {rest : List Char} {n : Nat}

/-- A week date with dashes that is as long as ten characters goes on with no digit. -/
theorem noDigit_of_dateLength?
    (length : dateLength? (a :: b :: c :: d :: '-' :: 'W' :: e :: f :: '-' :: g :: rest) = some n)
    (cut : rest ≠ [] → n = 10) : ∀ x ∈ rest.head?, isDigit x = false := by
  intro x hx
  obtain ⟨more, rfl⟩ := List.head?_eq_some_iff.1 hx
  cases digit : isDigit x with
  | false => rfl
  | true =>
    rw [cut (List.cons_ne_nil x more), dateLength?_dashedWeek] at length
    simp [digit] at length

/-- A week date without dashes that ends in front of the day of the week goes on with no digit or with
an odd number of them. -/
theorem beginsOdd_of_week (length : dateLength? (a :: b :: c :: d :: 'W' :: e :: f :: rest) = some n)
    (cut : rest ≠ [] → n = 7) : BeginsOdd rest := by
  by_contra even
  simp only [BeginsOdd, not_or] at even
  rw [dateLength?_plainWeek, if_neg (by omega), if_neg (by omega)] at length
  have some : rest ≠ [] := by
    rintro rfl
    exact even.1 rfl
  cases (cut some).symm.trans (Option.some.inj length).symm

/-- A week date without dashes that ends behind the day of the week does, too. -/
theorem beginsOdd_of_weekday (digit : isDigit g = true)
    (length : dateLength? (a :: b :: c :: d :: 'W' :: e :: f :: g :: rest) = some n) (long : 8 ≤ n) :
    BeginsOdd rest := by
  rw [dateLength?_plainWeek, length_takeWhile_isDigit_cons digit] at length
  by_contra even
  simp only [BeginsOdd, not_or] at even
  rw [if_neg (by omega), if_pos (by omega)] at length
  cases length
  exact Nat.not_succ_le_self 7 long

end

/-- A date that is found in front of a text is one that the text names. -/
theorem spellsDate_of_day? {date rest : List Char} {n k : Nat} (found : day? date = some k)
    (length : dateLength? (date ++ rest) = some n) (long : date.length ≤ n)
    (cut : rest ≠ [] → n = date.length) : ∃ d : Date, SpellsDate rest d date ∧ d.dayNumber = k := by
  unfold day? at found
  split at found
  next a b c d e f g =>
    simp only [Option.bind_eq_bind, Option.bind_eq_some_iff] at found
    obtain ⟨y, hy, w, hw, k, hk, found⟩ := found
    obtain ⟨day, inWeek, number⟩ := dayOfWeekDate?_eq_some_iff.1 found
    refine ⟨day, .weekday (Or.inr rfl) (four?_eq_some_iff.1 hy) (two?_eq_some_iff.1 hw)
      (spells_one hk) inWeek ?_, number⟩
    rw [if_neg (List.cons_ne_nil _ _)]
    exact noDigit_of_dateLength? length cut
  next a b c d e f g h _ =>
    simp only [Option.bind_eq_bind, Option.bind_eq_some_iff] at found
    obtain ⟨y, hy, m, hm, k, hk, found⟩ := found
    obtain ⟨found, number⟩ := (@dayOfDate?_eq_some_iff ⟨y, m, k⟩ _).1 found
    exact ⟨_, .calendar (Or.inr rfl) (four?_eq_some_iff.1 hy) (two?_eq_some_iff.1 hm)
      (two?_eq_some_iff.1 hk) found, number⟩
  next a b c d e f =>
    simp only [Option.bind_eq_bind, Option.bind_eq_some_iff] at found
    obtain ⟨y, hy, w, hw, found⟩ := found
    obtain ⟨day, inWeek, number⟩ := dayOfWeekDate?_eq_some_iff.1 found
    exact ⟨day, .week (Or.inr rfl) (four?_eq_some_iff.1 hy) (two?_eq_some_iff.1 hw) inWeek
      fun none => absurd none (List.cons_ne_nil _ _), number⟩
  next a b c d e f g =>
    simp only [Option.bind_eq_bind, Option.bind_eq_some_iff] at found
    obtain ⟨y, hy, w, hw, k, hk, found⟩ := found
    obtain ⟨day, inWeek, number⟩ := dayOfWeekDate?_eq_some_iff.1 found
    refine ⟨day, .weekday (Or.inl rfl) (four?_eq_some_iff.1 hy) (two?_eq_some_iff.1 hw)
      (spells_one hk) inWeek ?_, number⟩
    rw [if_pos rfl]
    exact beginsOdd_of_weekday (isDigit_of_spells (spells_one hk) g List.mem_cons_self) length long
  next a b c d e f g h _ _ =>
    simp only [Option.bind_eq_bind, Option.bind_eq_some_iff] at found
    obtain ⟨y, hy, m, hm, k, hk, found⟩ := found
    obtain ⟨found, number⟩ := (@dayOfDate?_eq_some_iff ⟨y, m, k⟩ _).1 found
    exact ⟨_, .calendar (Or.inl rfl) (four?_eq_some_iff.1 hy) (two?_eq_some_iff.1 hm)
      (two?_eq_some_iff.1 hk) found, number⟩
  next a b c d e f =>
    simp only [Option.bind_eq_bind, Option.bind_eq_some_iff] at found
    obtain ⟨y, hy, w, hw, found⟩ := found
    obtain ⟨day, inWeek, number⟩ := dayOfWeekDate?_eq_some_iff.1 found
    exact ⟨day, .week (Or.inl rfl) (four?_eq_some_iff.1 hy) (two?_eq_some_iff.1 hw) inWeek
      fun _ => beginsOdd_of_week length cut, number⟩
  next => cases found

/-- What is cut off at the length of a date is a date that the text names, if it is found. -/
theorem exists_spellsDate {cs : List Char} {n k : Nat} (length : dateLength? cs = some n)
    (found : day? (cs.take n) = some k) :
    ∃ d : Date, SpellsDate (cs.drop n) d (cs.take n) ∧ d.dayNumber = k := by
  refine spellsDate_of_day? found ?_ (List.length_take_le n cs) fun some => ?_
  · rwa [List.take_append_drop]
  · -- A rest that is there begins where the length says.
    have whole : n ≤ cs.length := by
      by_contra less
      exact some (List.drop_eq_nil_of_le (by omega))
    rw [List.length_take, Nat.min_eq_left whole]

/-! ### Reading a time of day -/

/-- A day has this many millionths. -/
theorem lt_microsPerDay_iff {n : Nat} : n < microsPerDay ↔ n < 86400000000 := by
  rw [microsPerDay]

/-- The millionths by which a span shifts the time; less than a second does not. -/
theorem offset?_sign {sign : Char} {rest left : List Char} {s : Span} (signs : sign = '+' ∨ sign = '-')
    (span : s.Spells left rest) (ended : Ended left) (short : s.toMicros < microsPerDay) :
    offset? (sign :: rest) =
      some (if sign = '-' then -(if s.toMicros < 1000000 then 0 else s.toMicros : Int)
        else if s.toMicros < 1000000 then 0 else s.toMicros) := by
  have zulu : sign ≠ 'Z' := by rcases signs with rfl | rfl <;> decide
  -- The sign is decided by rewriting, here and below: to compute would multiply by a million in unary.
  rw [offset?.eq_3 _ _ fun e => zulu e]
  simp only [Option.bind_eq_bind, Option.bind_eq_some_iff, Option.guard_eq_some']
  exact ⟨(), signs, (s, left), span?_eq_some_iff.2 span, (), ⟨ended, short⟩, rfl⟩

/-- **An offset is read where a text names one.** -/
theorem offset?_eq_some_iff {n : Int} {sign : Char} {rest : List Char} :
    offset? (sign :: rest) = some n ↔ SpellsOffset n (sign :: rest) := by
  constructor
  · intro h
    by_cases zulu : sign = 'Z'
    · subst zulu
      obtain ⟨_, ended, h⟩ := Option.bind_eq_some_iff.1 h
      cases h
      exact .universal ((Option.guard_eq_some' _).1 ended)
    · rw [offset?.eq_3 _ _ fun e => zulu e] at h
      obtain ⟨_, signs, h⟩ := Option.bind_eq_some_iff.1 h
      obtain ⟨⟨s, left⟩, span, h⟩ := Option.bind_eq_some_iff.1 h
      obtain ⟨_, bounds, h⟩ := Option.bind_eq_some_iff.1 h
      obtain ⟨ended, short⟩ := (Option.guard_eq_some' _).1 bounds
      have signs : sign = '+' ∨ sign = '-' := (Option.guard_eq_some' _).1 signs
      have span := span?_eq_some_iff.1 span
      dsimp only at h ended short
      by_cases none : s.toMicros < 1000000
      · rw [if_pos none] at h
        have zero : n = 0 := by
          cases h
          split <;> rfl
        exact zero ▸ .none signs span ended none
      · rw [if_neg none] at h
        rcases signs with rfl | rfl
        · rw [if_neg (by decide)] at h
          cases h
          exact .ahead span ended (Nat.le_of_not_lt none) (lt_microsPerDay_iff.1 short)
        · rw [if_pos rfl] at h
          cases h
          exact .behind span ended (Nat.le_of_not_lt none) (lt_microsPerDay_iff.1 short)
  · intro h
    cases h with
    | universal ended =>
      have guarded : guard (Ended rest) = some () := (Option.guard_eq_some' _).2 ended
      rw [offset?, guarded]
      rfl
    | none signs span ended short =>
      rw [offset?_sign signs span ended
        (lt_microsPerDay_iff.2 (Nat.lt_trans short (by decide))), if_pos short]
      split <;> rfl
    | ahead span ended long short =>
      rw [offset?_sign (Or.inl rfl) span ended (lt_microsPerDay_iff.2 short),
        if_neg (Nat.not_lt_of_le long), if_neg (by decide)]
    | behind span ended long short =>
      rw [offset?_sign (Or.inr rfl) span ended (lt_microsPerDay_iff.2 short),
        if_neg (Nat.not_lt_of_le long), if_pos rfl]

theorem startsOffset_eq_false_iff {cs : List Char} :
    (∀ c ∈ cs, (!startsOffset c) = true) ↔ '+' ∉ cs ∧ '-' ∉ cs ∧ 'Z' ∉ cs := by
  simp only [startsOffset, Bool.not_eq_true', Bool.or_eq_false_iff, decide_eq_false_iff_not]
  constructor
  · intro h
    exact ⟨fun plus => (h _ plus).1.1 rfl, fun minus => (h _ minus).1.2 rfl,
      fun zulu => (h _ zulu).2 rfl⟩
  · rintro ⟨plus, minus, zulu⟩ c hc
    exact ⟨⟨fun e => plus (e ▸ hc), fun e => minus (e ▸ hc)⟩, fun e => zulu (e ▸ hc)⟩

theorem SpellsOffset.head {n : Int} {cs : List Char} (h : SpellsOffset n cs) :
    ∃ sign rest, cs = sign :: rest ∧ startsOffset sign = true := by
  cases h with
  | universal _ => exact ⟨_, _, rfl, rfl⟩
  | none signs _ _ _ => exact ⟨_, _, rfl, by rcases signs with rfl | rfl <;> rfl⟩
  | ahead _ _ _ _ => exact ⟨_, _, rfl, rfl⟩
  | behind _ _ _ _ => exact ⟨_, _, rfl, rfl⟩

/-- A time of day that is shown is read up to the offset. -/
theorem Shows.time? {s : Span} {left cs zone : List Char} {n : Int} (h : Shows s left cs)
    (begins : ∀ c ∈ zone.head?, startsOffset c = true) (ended : zone = [] → Ended left)
    (offset : offset? zone = some n) : time? (cs ++ zone) = some (s.toMicros - n) := by
  have clock := startsOffset_eq_false_iff.2 h.noOffset
  have front : (cs ++ zone).takeWhile (fun c => !startsOffset c) = cs := by
    rw [List.takeWhile_append_of_pos clock]
    cases zone with
    | nil => simp
    | cons c zone => simp [begins c rfl]
  have back : (cs ++ zone).dropWhile (fun c => !startsOffset c) = zone := by
    rw [List.dropWhile_append_of_pos clock]
    cases zone with
    | nil => rfl
    | cons c zone => simp [begins c rfl]
  unfold Timestamp.time?
  rw [front, back]
  simp only [Option.bind_eq_bind, Option.bind_eq_some_iff, Option.guard_eq_some']
  exact ⟨(s, left), span?_eq_some_iff.2 h.spells, (), h.shown, (), ended, n, offset, rfl⟩

/-- **A time of day is read where a text names one.** -/
theorem time?_eq_some_iff {n : Int} {cs : List Char} : time? cs = some n ↔ SpellsTime n cs := by
  constructor
  · intro h
    unfold time? at h
    obtain ⟨⟨s, left⟩, clock, h⟩ := Option.bind_eq_some_iff.1 h
    obtain ⟨_, shown, h⟩ := Option.bind_eq_some_iff.1 h
    obtain ⟨_, ended, h⟩ := Option.bind_eq_some_iff.1 h
    obtain ⟨ahead, offset, h⟩ := Option.bind_eq_some_iff.1 h
    have ended := (Option.guard_eq_some' _).1 ended
    have shows : Shows s left (cs.takeWhile fun c => !startsOffset c) :=
      ⟨span?_eq_some_iff.1 clock, (Option.guard_eq_some' _).1 shown,
        startsOffset_eq_false_iff.1 fun c hc =>
          List.mem_takeWhile_imp (p := fun c => !startsOffset c) hc⟩
    have parts := (@List.takeWhile_append_dropWhile _ (fun c => !startsOffset c) cs).symm
    cases h
    rcases hzone : cs.dropWhile fun c => !startsOffset c with _ | ⟨sign, rest⟩
    · rw [hzone] at offset parts
      cases offset
      rw [List.append_nil] at parts
      rw [← parts] at shows
      rw [Int.sub_zero]
      exact .universal shows (ended hzone)
    · rw [hzone] at offset parts
      rw [parts]
      exact .offset shows (offset?_eq_some_iff.1 offset)
  · intro h
    cases h with
    | @universal s left _ clock ended =>
      rw [← List.append_nil cs, clock.time? (by simp) (fun _ => ended) rfl, Int.sub_zero]
    | offset clock offset =>
      obtain ⟨sign, rest, rfl, begins⟩ := offset.head
      refine clock.time? ?_ (fun none => absurd none (List.cons_ne_nil _ _))
        (offset?_eq_some_iff.2 offset)
      rintro _ ⟨⟩
      exact begins

theorem SpellsTime.followsDate {n : Int} {clock : List Char} (h : SpellsTime n clock) (c : Char) :
    FollowsDate (c :: clock) := by
  have front : ∀ {s : Span} {left cs rest : List Char}, Shows s left cs →
      FollowsDate (c :: (cs ++ rest)) := by
    rintro s left cs rest ⟨⟨separator, ns, -, spells, -⟩, -, -⟩
    obtain ⟨x, y, more, rfl, hx, hy⟩ := spells.head
    exact Or.inr ⟨c, x, y, more ++ rest, rfl, hx, hy⟩
  cases h with
  | universal shows _ => exact List.append_nil clock ▸ front shows
  | offset clock _ => exact front clock

/-! ### Reading an instant -/

/-- A date is as many days away from the first of January 1970 as its number says. -/
theorem apart_epoch_iff {d : Date} (h : d.Exists) {days : Int} :
    Date.Apart Date.epoch d days ↔ days = (d.dayNumber : Int) - epochDay := by
  rw [Date.apart_iff (Date.Exists.proper (by decide)) h.proper, Date.dayNumber_epoch]

theorem SpellsDate.exists {rest date : List Char} {d : Date} (h : SpellsDate rest d date) :
    d.Exists := by
  cases h with
  | calendar _ _ _ _ found => exact found
  | week _ _ _ found _ => exact found.1
  | weekday _ _ _ _ found _ => exact found.1

/-- What stands behind a date is cut off where the date ends. -/
theorem SpellsDate.readChars? {rest date : List Char} {d : Date} (h : SpellsDate rest d date)
    (follows : FollowsDate rest) :
    readChars? (date ++ rest) = (timeBehind? rest).map fun micros =>
      (((d.dayNumber : Int) - epochDay) * microsPerDay + micros) / 1000 := by
  obtain ⟨length, day⟩ := h.read follows
  rw [Timestamp.readChars?, length]
  simp only [Option.bind_eq_bind, Option.bind_some, List.take_left, List.drop_left, day,
    Option.map_eq_bind]
  rfl

theorem readChars?_of_names {cs : List Char} {t : Int} (h : Names t cs) :
    readChars? cs = some (t / 1000) := by
  cases h with
  | day named count =>
    obtain rfl := (apart_epoch_iff named.exists).1 count
    have read := named.readChars? (Or.inl rfl)
    rw [List.append_nil] at read
    rw [read, Int.mul_comm]
    show some ((_ + 0) / 1000) = _
    rw [Int.add_zero]
    rfl
  | time named count time =>
    obtain rfl := (apart_epoch_iff named.exists).1 count
    rw [named.readChars? (time.followsDate _), Int.mul_comm]
    exact congrArg _ (time?_eq_some_iff.2 time)

theorem names_of_readChars? {cs : List Char} {n : Int} (h : readChars? cs = some n) :
    ∃ t, Names t cs ∧ n = t / 1000 := by
  obtain ⟨k, length, h⟩ := Option.bind_eq_some_iff.1 h
  obtain ⟨day, date, h⟩ := Option.bind_eq_some_iff.1 h
  obtain ⟨micros, time, h⟩ := Option.bind_eq_some_iff.1 h
  cases h
  obtain ⟨d, named, rfl⟩ := exists_spellsDate length date
  have count := (apart_epoch_iff named.exists).2 rfl
  refine ⟨_, ?_, rfl⟩
  rw [← List.take_append_drop k cs, Int.mul_comm]
  cases hrest : cs.drop k with
  | nil =>
    rw [hrest] at time named
    cases time
    rw [List.append_nil, Int.add_zero]
    exact .day named count
  | cons c clock =>
    rw [hrest] at time named
    exact .time named count (time?_eq_some_iff.1 time)

/-- **A timestamp is read where a text names an instant**, in whole milliseconds. -/
theorem read?_eq_some_iff {s : String} {n : Int} :
    read? s = some n ↔ ∃ t, Names t s.toList ∧ n = t / 1000 := by
  constructor
  · exact names_of_readChars?
  · rintro ⟨t, named, rfl⟩
    exact readChars?_of_names named

end StorageMetadata.Timestamp
