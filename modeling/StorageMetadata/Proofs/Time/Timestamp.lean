import StorageMetadata.Proofs.Time.Calendar
import StorageMetadata.Proofs.Time.Span

/-!
# Timestamps are read back

A timestamp that was written is read as the instant that it was written for,

    read? (write n) = some n,

for every instant of the years 1 to 9999.  The text has twenty-four characters whatever the instant
is.  Each part of the reader is run on the part of the text that it is for: the date by the
calendar, the time of day by its four numbers, and the end of the text as the sign of universal
time.
-/

namespace StorageMetadata.Timestamp

open StorageMetadata StorageMetadata.Text StorageMetadata.Decimal

/-! ### Digits of fixed width -/

theorem digitChar_ne {d : Nat} (h : d < 10) {c : Char} (hc : asciiDigit? c = none) :
    digitChar d ≠ c := by
  rintro rfl
  rw [asciiDigit?_digitChar h] at hc
  cases hc

theorem two?_digitChar {n : Nat} (h : n < 100) :
    two? (digitChar (n / 10 % 10)) (digitChar (n % 10)) = some n :=
  two?_eq_some_iff.2 (spells_padded h)

theorem four?_digitChar {n : Nat} (h : n < 10000) :
    four? (digitChar (n / 10 / 10 / 10 % 10)) (digitChar (n / 10 / 10 % 10))
      (digitChar (n / 10 % 10)) (digitChar (n % 10)) = some n :=
  four?_eq_some_iff.2 (spells_padded h)

/-- Thousandths of a second, read as millionths. -/
theorem spellsMicros_padded {n : Nat} (h : n < 1000) :
    SpellsMicros (n * 1000) [] (padded 3 n) := by
  obtain ⟨ds, read, length, value⟩ := @spells_padded 3 n h
  refine ⟨padded 3 n, ds, read, ?_, ?_, (List.append_nil _).symm, Or.inl rfl, nofun⟩
  · exact List.ne_nil_of_length_pos (by rw [length_padded]; decide)
  · rw [value, length, show 1000000 * n = n * 1000 * 10 ^ 3 by omega,
      Nat.mul_div_cancel _ (by decide)]

/-! ### The parts of the text -/

/-- The date, as the first ten characters lay it out. -/
def dateChars (d : Date) : List Char :=
  [digitChar (d.year / 10 / 10 / 10 % 10), digitChar (d.year / 10 / 10 % 10),
    digitChar (d.year / 10 % 10), digitChar (d.year % 10), '-',
    digitChar (d.month / 10 % 10), digitChar (d.month % 10), '-',
    digitChar (d.day / 10 % 10), digitChar (d.day % 10)]

/-- The time of day, as the twelve characters before the last lay it out. -/
def clockChars (c : Clock) : List Char :=
  [digitChar (c.hour / 10 % 10), digitChar (c.hour % 10), ':',
    digitChar (c.minute / 10 % 10), digitChar (c.minute % 10), ':',
    digitChar (c.second / 10 % 10), digitChar (c.second % 10), '.',
    digitChar (c.milli / 10 / 10 % 10), digitChar (c.milli / 10 % 10), digitChar (c.milli % 10)]

/-- A time of day that a clock shows. -/
def Clock.Valid (c : Clock) : Prop :=
  c.hour < 24 ∧ c.minute < 60 ∧ c.second < 60 ∧ c.milli < 1000

theorem Clock.valid_ofMillis {n : Nat} (h : n < 86400000) : (Clock.ofMillis n).Valid := by
  simp only [Clock.Valid, Clock.ofMillis]
  omega

theorem dateLength?_chars (d : Date) (c : Clock) : dateLength? (chars d c) = some 10 := by
  have fifth : (chars d c)[4]? = some '-' := rfl
  have sixth : (chars d c)[5]? ≠ some 'W' := by
    show some (digitChar (d.month / 10 % 10)) ≠ some 'W'
    intro h
    exact digitChar_ne (Nat.mod_lt _ (by decide)) (by decide) (Option.some.inj h)
  rw [dateLength?, length_chars]
  simp only [fifth, if_neg sixth]
  rfl

/-- A date with dashes is read part by part, unless it is a week date. -/
theorem day?_dashed {a b c d e f g h : Char} (he : e ≠ 'W') :
    day? [a, b, c, d, '-', e, f, '-', g, h] =
      (four? a b c d).bind fun year => (two? e f).bind fun month => (two? g h).bind fun day =>
        dayOfDate? year month day := by
  rw [day?.eq_2]
  · rfl
  · intro week _
    exact he week

theorem day?_dateChars {d : Date} (h : d.Exists) : day? (dateChars d) = some d.dayNumber := by
  have short := daysInMonth_le d.year d.month
  have bounds := h
  simp only [Date.Exists, lastYear] at bounds
  rw [dateChars, day?_dashed (digitChar_ne (Nat.mod_lt _ (by decide)) (by decide)),
    four?_digitChar (by omega), two?_digitChar (by omega), two?_digitChar (by omega)]
  exact if_pos h

theorem spells_clockChars {c : Clock} (h : c.Valid) :
    (⟨c.hour, c.minute, c.second, c.milli * 1000⟩ : Span).Spells [] (clockChars c) := by
  obtain ⟨hh, hm, hs, hn⟩ := h
  exact Span.spells_seconds (spells_padded (Nat.lt_trans hh (by decide)))
    (spells_padded (Nat.lt_trans hm (by decide))) (spells_padded (Nat.lt_trans hs (by decide)))
    (.fraction (Or.inl rfl) (spellsMicros_padded hn))

/-- No character of a time of day begins an offset. -/
theorem not_startsOffset_of_mem_clockChars {c : Clock} :
    ∀ x ∈ clockChars c, (!startsOffset x) = true := by
  have digit : ∀ n, (!startsOffset (digitChar (n % 10))) = true := by
    intro n
    have below : n % 10 < 10 := Nat.mod_lt _ (by decide)
    simp [startsOffset, digitChar_ne below (c := '+') (by decide),
      digitChar_ne below (c := '-') (by decide), digitChar_ne below (c := 'Z') (by decide)]
  have colon : (!startsOffset ':') = true := by decide
  have point : (!startsOffset '.') = true := by decide
  simp only [clockChars, List.forall_mem_cons, digit, colon, point, List.not_mem_nil,
    false_implies, implies_true, and_self]

theorem time?_clockChars {c : Clock} (h : c.Valid) :
    time? (clockChars c ++ ['Z']) = some
      ((((c.hour * 60 + c.minute) * 60 + c.second) * 1000000 + c.milli * 1000 : Nat) : Int) := by
  obtain ⟨hh, hm, hs, hn⟩ := h
  have bounds : c.hour < 24 ∧ c.minute < 60 ∧ c.second < 60 := ⟨hh, hm, hs⟩
  unfold time? guard
  simp only [List.takeWhile_append_of_pos not_startsOffset_of_mem_clockChars,
    List.dropWhile_append_of_pos not_startsOffset_of_mem_clockChars]
  show (span? (clockChars c ++ [])).bind _ = _
  rw [List.append_nil, span?_eq_some_iff.2 (spells_clockChars ⟨hh, hm, hs, hn⟩)]
  simp only [Option.bind_some, if_pos bounds]
  show some (((((c.hour * 60 + c.minute) * 60 + c.second) * 1000000 + c.milli * 1000 : Nat) : Int) -
    0) = _
  rw [Int.sub_zero]

/-! ### Instants -/

theorem readChars?_chars {d : Date} {c : Clock} (hd : d.Exists) (hc : c.Valid) :
    readChars? (chars d c) = some ((((d.dayNumber : Int) - epochDay) * microsPerDay +
      ((((c.hour * 60 + c.minute) * 60 + c.second) * 1000000 + c.milli * 1000 : Nat) : Int)) /
        1000) := by
  have front : (chars d c).take 10 = dateChars d := rfl
  have back : timeBehind? ((chars d c).drop 10) = time? (clockChars c ++ ['Z']) := rfl
  rw [readChars?, dateLength?_chars, Option.bind_eq_bind, Option.bind_some, front,
    day?_dateChars hd, Option.bind_eq_bind, Option.bind_some, back, time?_clockChars hc]
  rfl

/-- The date of an instant exists, and its clock shows a time of day. -/
theorem split_spec {n : Int} (h : InRange n) :
    (split n).1.Exists ∧ (split n).1.dayNumber = (n - firstMillis).toNat / 86400000 ∧
      (split n).2 = Clock.ofMillis ((n - firstMillis).toNat % 86400000) := by
  have day : (n - firstMillis).toNat / 86400000 < endOfDays := by
    simp only [InRange, firstMillis, lastMillis, endOfDays] at h ⊢
    omega
  obtain ⟨hex, hn⟩ := Date.ofDayNumber_spec day
  exact ⟨hex, hn, rfl⟩

/-- **A timestamp is read back.**  The text that names an instant of the years 1 to 9999 is read as
that instant, to the millisecond. -/
theorem read?_write {n : Int} (h : InRange n) : read? (write n) = some n := by
  obtain ⟨hex, hday, hclock⟩ := split_spec h
  have valid : (split n).2.Valid := by
    rw [hclock]
    exact Clock.valid_ofMillis (Nat.mod_lt _ (by decide))
  have text : (write n).toList = chars (split n).1 (split n).2 := String.toList_ofList
  rw [read?, text, readChars?_chars hex valid, hday, hclock]
  obtain ⟨m, hm⟩ : ∃ m, m = (n - firstMillis).toNat := ⟨_, rfl⟩
  rw [← hm]
  simp only [InRange, firstMillis, lastMillis] at h hm
  refine congrArg some ?_
  simp only [Clock.ofMillis, epochDay, microsPerDay]
  omega

end StorageMetadata.Timestamp
