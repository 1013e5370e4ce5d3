import StorageMetadata.Proofs.Time.Succession

/-!
# Weeks of a year

A week begins on Monday and belongs to the year of its Thursday, so the weeks of a year are counted by
its Thursdays.  The first of January 1970 was one, and so was every day that is whole weeks away from
it.  `Date.InWeek` says so of a day on the calendar, and the number of the day agrees with it,

    dayOfWeekDate? year week weekday = some n ↔ ∃ d, d.InWeek year week weekday ∧ d.dayNumber = n.
-/

namespace StorageMetadata

/-! ### Years -/

theorem daysBeforeYear_mono {year year' : Nat} (h : 1 ≤ year) (later : year < year') :
    daysBeforeYear year + daysInYear year ≤ daysBeforeYear year' := by
  induction later with
  | refl => exact Nat.le_of_eq (daysBeforeYear_succ h).symm
  | @step m later ih =>
    rw [daysBeforeYear_succ (Nat.le_trans h (Nat.le_of_lt later))]
    exact Nat.le_trans ih (Nat.le_add_right _ _)

/-- The days of a year end before the day after the last year. -/
theorem daysBeforeYear_add_daysInYear_le {year : Nat} (h : 1 ≤ year) (h' : year ≤ lastYear) :
    daysBeforeYear year + daysInYear year ≤ endOfDays :=
  daysBeforeYear_mono h (Nat.lt_succ_of_le h')

namespace Date

/-- The days of a year stand in a row. -/
theorem dayNumber_bounds {d : Date} (h : d.Proper) :
    daysBeforeYear d.year ≤ d.dayNumber ∧
      d.dayNumber < daysBeforeYear d.year + daysInYear d.year := by
  obtain ⟨-, hmonth, hmonth', hday, hday'⟩ := h
  have months : daysBeforeMonth d.year d.month + daysInMonth d.year d.month ≤ daysInYear d.year := by
    rw [← sum_monthLengths, daysBeforeMonth_eq, daysInMonth]
    have table : ∀ leap, ∀ k < 12, ((monthLengths leap).take k).sum + (monthLengths leap).getD k 0 ≤
        (monthLengths leap).sum := by decide
    exact table _ (d.month - 1) (by omega)
  simp only [dayNumber]
  omega

theorem dayNumber_lt {d : Date} (h : d.Exists) : d.dayNumber < endOfDays :=
  Nat.lt_of_lt_of_le (dayNumber_bounds h.proper).2 (daysBeforeYear_add_daysInYear_le h.1 h.2.1)

/-- A day lies in the year in which its number does. -/
theorem year_eq {d : Date} (h : d.Proper) {year : Nat} (hyear : 1 ≤ year)
    (first : daysBeforeYear year ≤ d.dayNumber)
    (last : d.dayNumber < daysBeforeYear year + daysInYear year) : d.year = year := by
  obtain ⟨first', last'⟩ := dayNumber_bounds h
  rcases Nat.lt_trichotomy d.year year with before | same | after
  · have := daysBeforeYear_mono h.1 before
    omega
  · exact same
  · have := daysBeforeYear_mono hyear after
    omega

/-- Every day before the last one is that of a date. -/
theorem exists_of_lt_endOfDays {n : Nat} (h : n < endOfDays) : ∃ d : Date, d.Exists ∧ d.dayNumber = n :=
  ⟨_, ofDayNumber_spec h⟩

theorem newYear_proper {year : Nat} (h : 1 ≤ year) : (⟨year, 1, 1⟩ : Date).Proper :=
  ⟨h, Nat.le_refl 1, Nat.le_add_left 1 11, Nat.le_refl 1,
    one_le_daysInMonth year (Nat.le_refl 1) (Nat.le_add_left 1 11)⟩

theorem dayNumber_newYear (year : Nat) : (⟨year, 1, 1⟩ : Date).dayNumber = daysBeforeYear year := rfl

/-! ### Weeks -/

/-- Is this the day of the week, the first being Monday, in the week of the year? -/
def InWeek (d : Date) (year week weekday : Nat) : Prop :=
  d.Exists ∧ 1 ≤ weekday ∧ weekday ≤ 7 ∧
    ∃ thursday : Date, thursday.Exists ∧ thursday.year = year ∧
      (∃ weeks : Int, Apart epoch thursday (7 * weeks)) ∧
      (∃ days : Nat, Apart ⟨year, 1, 1⟩ thursday days ∧ days / 7 + 1 = week) ∧
      Apart thursday d ((weekday : Int) - 4)

/-- The Thursday of a week, if the year has the week. -/
theorem thursday_of_week {year week : Nat} (hweek : 1 ≤ week)
    (hweek' : week ≤ weeksInYear year) :
    (firstMonday year + 7 * (week - 1) + 3) % 7 = 3 ∧
      daysBeforeYear year ≤ firstMonday year + 7 * (week - 1) + 3 ∧
      firstMonday year + 7 * (week - 1) + 3 < daysBeforeYear year + daysInYear year ∧
      (firstMonday year + 7 * (week - 1) + 3 - daysBeforeYear year) / 7 + 1 = week := by
  simp only [weeksInYear] at hweek'
  simp only [firstMonday, daysInYear]
  generalize daysBeforeYear year = january at *
  cases leap : isLeapYear year with
  | true =>
    simp only [leap, and_true] at hweek'
    simp only [if_true]
    split at hweek' <;> split <;> omega
  | false =>
    simp only [leap, Bool.false_eq_true, and_false, or_false] at hweek'
    simp only [Bool.false_eq_true, if_false]
    split at hweek' <;> split <;> omega

/-- The Thursdays of a year are those of its weeks. -/
theorem week_of_thursday {year t : Nat} (thursday : t % 7 = 3) (first : daysBeforeYear year ≤ t)
    (last : t < daysBeforeYear year + daysInYear year) :
    (t - daysBeforeYear year) / 7 + 1 ≤ weeksInYear year ∧
      firstMonday year + 7 * ((t - daysBeforeYear year) / 7) + 3 = t := by
  simp only [weeksInYear, firstMonday]
  simp only [daysInYear] at last
  generalize daysBeforeYear year = january at *
  split at last
  next leap =>
    simp only [leap, and_true]
    constructor
    · split <;> omega
    · split <;> omega
  next common =>
    simp only [common, and_false, or_false, Bool.false_eq_true]
    constructor
    · split <;> omega
    · split <;> omega

end Date

/-- **A day is found by its week**, if the year has the week and the day comes before the end of the
last year. -/
theorem dayOfWeekDate?_eq_some_iff {year week weekday n : Nat} :
    dayOfWeekDate? year week weekday = some n ↔
      ∃ d : Date, d.InWeek year week weekday ∧ d.dayNumber = n := by
  have epoch : Date.epoch.Proper := Date.Exists.proper (by decide)
  have epochThursday : epochDay % 7 = 3 := by decide
  simp only [dayOfWeekDate?, Option.ite_none_right_eq_some, Option.some.injEq]
  constructor
  · rintro ⟨⟨hyear, hyear', hweek, hweek', hday, hday', before⟩, rfl⟩
    obtain ⟨thursday, first, last, count⟩ := Date.thursday_of_week hweek hweek'
    have early : firstMonday year + 7 * (week - 1) + 3 < endOfDays :=
      Nat.lt_of_lt_of_le last (daysBeforeYear_add_daysInYear_le hyear hyear')
    obtain ⟨d, hd, number⟩ := Date.exists_of_lt_endOfDays before
    obtain ⟨t, ht, number'⟩ := Date.exists_of_lt_endOfDays early
    rw [← number'] at first last
    have same := Date.year_eq ht.proper hyear first last
    refine ⟨d, ⟨hd, hday, hday', t, ht, same, ⟨((t.dayNumber : Int) - epochDay) / 7, ?_⟩,
      ⟨t.dayNumber - daysBeforeYear year, ?_, ?_⟩, ?_⟩, number⟩
    · rw [Date.apart_iff epoch ht.proper, Date.dayNumber_epoch]
      omega
    · rw [Date.apart_iff (Date.newYear_proper hyear) ht.proper, Date.dayNumber_newYear]
      omega
    · rw [number']
      exact count
    · rw [Date.apart_iff ht.proper hd.proper]
      omega
  · rintro ⟨d, ⟨hd, hday, hday', t, ht, rfl, ⟨weeks, fromEpoch⟩, ⟨days, fromNewYear, rfl⟩, apart⟩, rfl⟩
    rw [Date.apart_iff epoch ht.proper, Date.dayNumber_epoch] at fromEpoch
    rw [Date.apart_iff (Date.newYear_proper ht.1) ht.proper, Date.dayNumber_newYear] at fromNewYear
    rw [Date.apart_iff ht.proper hd.proper] at apart
    obtain ⟨first, last⟩ := Date.dayNumber_bounds ht.proper
    have before := Date.dayNumber_lt hd
    obtain ⟨week, monday⟩ := Date.week_of_thursday (by omega) first last
    obtain rfl : days = t.dayNumber - daysBeforeYear t.year := by omega
    refine ⟨⟨ht.1, ht.2.1, Nat.le_add_left 1 _, week, hday, hday', ?_⟩, ?_⟩
    · rw [Nat.add_sub_cancel]
      omega
    · rw [Nat.add_sub_cancel]
      omega

/-- The day of a date is found, if the calendar has it. -/
theorem dayOfDate?_eq_some_iff {d : Date} {n : Nat} :
    dayOfDate? d.year d.month d.day = some n ↔ d.Exists ∧ d.dayNumber = n :=
  Option.ite_none_right_eq_some.trans (and_congr_right fun _ => Option.some_inj)

end StorageMetadata
