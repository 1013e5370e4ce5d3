import Mathlib.Algebra.GroupWithZero.Nat
import StorageMetadata.Time.Calendar

/-!
# The date of a day

`Date.ofDayNumber` finds the date that `Date.dayNumber` counts up to: for a day before
`endOfDays` the date exists, and its number is the day again,

    dayNumber (ofDayNumber n) = n.

A day is cut twice.  `yearOfDay` takes whole cycles of 400, 100, 4 and one year off it; the last
century of 400 years and the last year of four are a day longer than the others of their kind, which
is why two of the quotients stop at three.  What is left is less than a year, and `monthOfDay` goes
through the months of that year.
-/

namespace StorageMetadata

/-! ### Years -/

/-- The number of days in a year. -/
def daysInYear (year : Nat) : Nat := if isLeapYear year then 366 else 365

/-- The last year of four is a leap year, unless it ends a century that does not end four. -/
theorem isLeapYear_of_cycles {q c f y : Nat} (hc : c ≤ 3) (hf : f ≤ 24) (hy : y ≤ 3) :
    isLeapYear (400 * q + 100 * c + 4 * f + y + 1) = true ↔ y = 3 ∧ (f < 24 ∨ c = 3) := by
  simp only [isLeapYear, Bool.and_eq_true, Bool.or_eq_true, decide_eq_true_eq]
  omega

theorem daysBeforeYear_of_cycles {q c f y : Nat} (hc : c ≤ 3) (hf : f ≤ 24) (hy : y ≤ 3) :
    daysBeforeYear (400 * q + 100 * c + 4 * f + y + 1) =
      146097 * q + 36524 * c + 1461 * f + 365 * y := by
  have h4 : (400 * q + 100 * c + 4 * f + y) / 4 = 100 * q + 25 * c + f := by omega
  have h100 : (400 * q + 100 * c + 4 * f + y) / 100 = 4 * q + c := by omega
  have h400 : (400 * q + 100 * c + 4 * f + y) / 400 = q := by omega
  simp only [daysBeforeYear, Nat.add_sub_cancel, h4, h100, h400]
  omega

/-- A day is one of the year that is found for it. -/
theorem yearOfDay_spec (n : Nat) :
    daysBeforeYear (yearOfDay n).1 + (yearOfDay n).2 = n ∧
      (yearOfDay n).2 < daysInYear (yearOfDay n).1 := by
  -- Every quotient and remainder gets a name, so that each division is reasoned about on its own.
  obtain ⟨q, hq⟩ : ∃ q, q = n / 146097 := ⟨_, rfl⟩
  obtain ⟨r, hr⟩ : ∃ r, r = n % 146097 := ⟨_, rfl⟩
  obtain ⟨c, hc⟩ : ∃ c, c = min (r / 36524) 3 := ⟨_, rfl⟩
  obtain ⟨s, hs⟩ : ∃ s, s = r - 36524 * c := ⟨_, rfl⟩
  obtain ⟨f, hf⟩ : ∃ f, f = s / 1461 := ⟨_, rfl⟩
  obtain ⟨t, ht⟩ : ∃ t, t = s % 1461 := ⟨_, rfl⟩
  obtain ⟨y, hy⟩ : ∃ y, y = min (t / 365) 3 := ⟨_, rfl⟩
  have found : yearOfDay n = (400 * q + 100 * c + 4 * f + y + 1, t - 365 * y) := by
    subst hy ht hf hs hc hr hq; rfl
  have hc3 : c ≤ 3 := by omega
  have hf24 : f ≤ 24 := by omega
  have hy3 : y ≤ 3 := by omega
  rw [found]
  refine ⟨?_, ?_⟩
  · rw [daysBeforeYear_of_cycles hc3 hf24 hy3]
    omega
  · show t - 365 * y < daysInYear _
    unfold daysInYear
    split
    next leap =>
      rw [isLeapYear_of_cycles hc3 hf24 hy3] at leap
      omega
    next common =>
      rw [isLeapYear_of_cycles hc3 hf24 hy3] at common
      omega

theorem yearOfDay_le_lastYear {n : Nat} (h : n < endOfDays) :
    1 ≤ (yearOfDay n).1 ∧ (yearOfDay n).1 ≤ lastYear := by
  simp only [endOfDays] at h
  simp only [yearOfDay, lastYear]
  omega

/-! ### Months -/

theorem sum_monthLengths (year : Nat) : (monthLengths (isLeapYear year)).sum = daysInYear year := by
  unfold daysInYear
  cases isLeapYear year <;> rfl

/-- A day within the given months is one of the month that is found for it. -/
theorem monthOfDay_spec (lengths : List Nat) : ∀ (month n : Nat), n < lengths.sum →
    ∃ k < lengths.length, ∃ d < lengths.getD k 0,
      n = (lengths.take k).sum + d ∧ monthOfDay month n lengths = (month + k, d + 1) := by
  induction lengths with
  | nil => intro month n h; simp at h
  | cons length rest ih =>
    intro month n h
    -- The day is in the first month, or it is counted from the end of that month.
    by_cases hn : n < length
    · exact ⟨0, by simp, n, by simpa using hn, by simp, by simp [monthOfDay, hn]⟩
    · rw [List.sum_cons] at h
      obtain ⟨k, hk, d, hd, hsum, found⟩ := ih (month + 1) (n - length) (by omega)
      refine ⟨k + 1, by simpa using hk, d, by simpa using hd, ?_, ?_⟩
      · rw [List.take_succ_cons, List.sum_cons]
        omega
      · rw [monthOfDay, if_neg hn, found]
        congr 1
        omega

theorem daysBeforeMonth_eq (year month : Nat) :
    daysBeforeMonth year month = ((monthLengths (isLeapYear year)).take (month - 1)).sum := by
  rw [daysBeforeMonth, List.sum_eq_foldl]

/-- No month has more than thirty-one days. -/
theorem daysInMonth_le (year month : Nat) : daysInMonth year month ≤ 31 := by
  have bound : ∀ leap, ∀ length ∈ monthLengths leap, length ≤ 31 := by decide
  rw [daysInMonth, List.getD_eq_getElem?_getD]
  cases h : (monthLengths (isLeapYear year))[month - 1]? with
  | none => exact Nat.zero_le 31
  | some length => exact bound _ length (List.mem_of_getElem? h)

/-! ### Dates -/

/-- **A day is found.**  The date of a day before the last one exists, and counting up to it gives
the day again. -/
theorem Date.ofDayNumber_spec {n : Nat} (h : n < endOfDays) :
    (Date.ofDayNumber n).Exists ∧ (Date.ofDayNumber n).dayNumber = n := by
  obtain ⟨hday, hlt⟩ := yearOfDay_spec n
  obtain ⟨hfirst, hlast⟩ := yearOfDay_le_lastYear h
  rcases hy : yearOfDay n with ⟨year, inYear⟩
  simp only [hy] at hday hlt hfirst hlast
  rw [← sum_monthLengths] at hlt
  obtain ⟨k, hk, d, hd, hsum, hm⟩ := monthOfDay_spec _ 1 inYear hlt
  have found : Date.ofDayNumber n = ⟨year, 1 + k, d + 1⟩ := by
    simp only [Date.ofDayNumber, hy, hm]
  have hmonth : 1 + k - 1 = k := by omega
  have htwelve : (monthLengths (isLeapYear year)).length = 12 := rfl
  rw [found]
  refine ⟨⟨hfirst, hlast, Nat.le_add_right 1 k, ?_, Nat.le_add_left 1 d, ?_⟩, ?_⟩
  · show 1 + k ≤ 12
    omega
  · simp only [daysInMonth, hmonth]
    omega
  · simp only [Date.dayNumber, daysBeforeMonth_eq, hmonth, Nat.add_sub_cancel]
    omega

end StorageMetadata
