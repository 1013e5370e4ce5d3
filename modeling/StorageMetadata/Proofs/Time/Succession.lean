import Mathlib.Logic.Function.Iterate
import StorageMetadata.Proofs.Time.Calendar

/-!
# Day after day

`Date.next` turns the page of the calendar: to the next day of the month, to the first of the next
month, or to New Year's Day.  A date is told by how many pages it lies after another one or before
it (`Date.Apart`), and that is what the numbers of days are for:

    Apart a b n ↔ n = b.dayNumber - a.dayNumber.

Every date is reached from the first day of the year 1, since every other day is the day after one.
-/

namespace StorageMetadata

/-! ### Months and years in a row -/

theorem sum_take_succ (lengths : List Nat) (k : Nat) :
    (lengths.take (k + 1)).sum = (lengths.take k).sum + lengths.getD k 0 := by
  rw [List.take_add_one, List.sum_append, List.getD_eq_getElem?_getD]
  cases lengths[k]? <;> simp

theorem daysBeforeMonth_succ (year : Nat) {month : Nat} (h : 1 ≤ month) :
    daysBeforeMonth year (month + 1) = daysBeforeMonth year month + daysInMonth year month := by
  obtain ⟨k, rfl⟩ : ∃ k, month = k + 1 := ⟨month - 1, by omega⟩
  simp only [daysBeforeMonth_eq, daysInMonth, Nat.add_sub_cancel, sum_take_succ]

/-- The day that only leap years have is what the three quotients count. -/
theorem daysInYear_eq (year : Nat) :
    daysInYear year + (if year % 100 = 0 then 1 else 0) =
      365 + (if year % 4 = 0 then 1 else 0) + if year % 400 = 0 then 1 else 0 := by
  have centuries : year % 100 = 0 → year % 4 = 0 := by omega
  have cycles : year % 400 = 0 → year % 100 = 0 := by omega
  simp only [daysInYear, isLeapYear, Bool.and_eq_true, Bool.or_eq_true, decide_eq_true_eq]
  by_cases four : year % 4 = 0 <;> by_cases hundred : year % 100 = 0 <;>
    by_cases cycle : year % 400 = 0 <;> simp_all

theorem daysBeforeYear_succ {year : Nat} (h : 1 ≤ year) :
    daysBeforeYear (year + 1) = daysBeforeYear year + daysInYear year := by
  obtain ⟨y, rfl⟩ : ∃ y, year = y + 1 := ⟨year - 1, by omega⟩
  have fewer : y / 100 ≤ y / 4 := Nat.div_le_div_left (by decide) (by decide)
  have length := daysInYear_eq (y + 1)
  simp only [daysBeforeYear, Nat.add_sub_cancel, Nat.succ_div, Nat.dvd_iff_mod_eq_zero]
  generalize y / 4 = fours at *
  generalize y / 100 = hundreds at *
  omega

/-- December ends with the year. -/
theorem daysBeforeMonth_december (year : Nat) : daysBeforeMonth year 12 + 31 = daysInYear year := by
  rw [← sum_monthLengths, daysBeforeMonth_eq]
  cases isLeapYear year <;> rfl

theorem daysInMonth_december (year : Nat) : daysInMonth year 12 = 31 := rfl

theorem one_le_daysInMonth (year : Nat) {month : Nat} (h : 1 ≤ month) (h' : month ≤ 12) :
    1 ≤ daysInMonth year month := by
  have every : ∀ leap, ∀ k < 12, 1 ≤ (monthLengths leap).getD k 0 := by decide
  exact every _ (month - 1) (by omega)

namespace Date

/-! ### The next day -/

/-- The day after a date. -/
def next (d : Date) : Date :=
  if d.day < daysInMonth d.year d.month then ⟨d.year, d.month, d.day + 1⟩
  else if d.month < 12 then ⟨d.year, d.month + 1, 1⟩
  else ⟨d.year + 1, 1, 1⟩

/-- Does the calendar have this day, if it is followed on after the last year? -/
def Proper (d : Date) : Prop :=
  1 ≤ d.year ∧ 1 ≤ d.month ∧ d.month ≤ 12 ∧ 1 ≤ d.day ∧ d.day ≤ daysInMonth d.year d.month

theorem Exists.proper {d : Date} (h : d.Exists) : d.Proper :=
  ⟨h.1, h.2.2⟩

/-- The first day of the year 1. -/
def first : Date := ⟨1, 1, 1⟩

/-- The first of January 1970. -/
def epoch : Date := ⟨1970, 1, 1⟩

theorem dayNumber_epoch : epoch.dayNumber = epochDay := rfl

theorem next_spec {d : Date} (h : d.Proper) :
    d.next.Proper ∧ d.next.dayNumber = d.dayNumber + 1 := by
  obtain ⟨hyear, hmonth, hmonth', hday, hday'⟩ := h
  unfold next
  split
  next within =>
    refine ⟨⟨hyear, hmonth, hmonth', Nat.le_add_left 1 d.day, within⟩, ?_⟩
    simp only [dayNumber]
    omega
  next last =>
    split
    next more =>
      have length := one_le_daysInMonth d.year (Nat.le_add_left 1 d.month) more
      refine ⟨⟨hyear, Nat.le_add_left 1 d.month, more, Nat.le_refl 1, length⟩, ?_⟩
      simp only [dayNumber, daysBeforeMonth_succ d.year hmonth]
      omega
    next ended =>
      refine ⟨⟨Nat.le_add_left 1 d.year, Nat.le_refl 1, Nat.le_add_left 1 11, Nat.le_refl 1,
        one_le_daysInMonth _ (Nat.le_refl 1) (Nat.le_add_left 1 11)⟩, ?_⟩
      have december : d.month = 12 := by omega
      have whole := daysBeforeMonth_december d.year
      have january : daysBeforeMonth (d.year + 1) 1 = 0 := rfl
      rw [december, daysInMonth_december] at last hday'
      simp only [dayNumber, daysBeforeYear_succ hyear, december, january]
      omega

theorem iterate_next_spec {d : Date} (h : d.Proper) (n : Nat) :
    (next^[n] d).Proper ∧ (next^[n] d).dayNumber = d.dayNumber + n := by
  induction n with
  | zero => exact ⟨h, rfl⟩
  | succ n ih =>
    obtain ⟨proper, number⟩ := next_spec ih.1
    rw [Function.iterate_succ_apply']
    exact ⟨proper, by rw [number, ih.2, Nat.add_assoc]⟩

/-- Every day but the first is the day after one. -/
theorem exists_next_eq {d : Date} (h : d.Proper) (later : d ≠ first) :
    ∃ p : Date, p.Proper ∧ p.next = d := by
  obtain ⟨year, month, day⟩ := d
  obtain ⟨hyear, hmonth, hmonth', hday, hday'⟩ := h
  dsimp only at hyear hmonth hmonth' hday hday'
  by_cases begins : day = 1
  · subst begins
    by_cases january : month = 1
    · subst january
      -- The day before is New Year's Eve, and there is a year before.
      have before : 1 < year := by
        by_contra not
        obtain rfl : year = 1 := by omega
        exact later rfl
      refine ⟨⟨year - 1, 12, 31⟩, ⟨by dsimp only; omega, by simp, Nat.le_refl 12, by simp,
        Nat.le_refl 31⟩, ?_⟩
      simp only [next, daysInMonth_december, Nat.lt_irrefl, if_false]
      rw [Nat.sub_add_cancel (by omega)]
    · have length : 1 ≤ daysInMonth year (month - 1) :=
        one_le_daysInMonth year (by omega) (by omega)
      refine ⟨⟨year, month - 1, daysInMonth year (month - 1)⟩, ⟨hyear, by dsimp only; omega,
        by dsimp only; omega, length, Nat.le_refl _⟩, ?_⟩
      have more : month - 1 < 12 := by omega
      simp only [next, Nat.lt_irrefl, if_false, if_pos more]
      rw [Nat.sub_add_cancel hmonth]
  · refine ⟨⟨year, month, day - 1⟩, ⟨hyear, hmonth, hmonth', by dsimp only; omega,
      by dsimp only; omega⟩, ?_⟩
    have within : day - 1 < daysInMonth year month := by omega
    simp only [next, if_pos within]
    rw [Nat.sub_add_cancel hday]

/-- **Every date is reached from the first one**, in as many steps as its number says. -/
theorem iterate_next_first {d : Date} (h : d.Proper) : next^[d.dayNumber] first = d := by
  induction hn : d.dayNumber generalizing d with
  | zero =>
    by_contra later
    obtain ⟨p, hp, rfl⟩ := exists_next_eq h fun e => later e.symm
    have := (next_spec hp).2
    omega
  | succ n ih =>
    have later : d ≠ first := by
      rintro rfl
      cases hn
    obtain ⟨p, hp, rfl⟩ := exists_next_eq h later
    have number := (next_spec hp).2
    rw [Function.iterate_succ_apply', ih hp (by omega)]

/-! ### How far dates are apart -/

/-- Does the day `b` come `n` days after the day `a`, or before it if `n` is negative? -/
def Apart (a b : Date) (n : Int) : Prop := next^[n.toNat] a = next^[(-n).toNat] b

/-- **The numbers of two days tell how far they are apart.** -/
theorem apart_iff {a b : Date} (ha : a.Proper) (hb : b.Proper) {n : Int} :
    Apart a b n ↔ n = (b.dayNumber : Int) - a.dayNumber := by
  constructor
  · intro h
    have number := congrArg dayNumber h
    rw [(iterate_next_spec ha _).2, (iterate_next_spec hb _).2] at number
    omega
  · rintro rfl
    unfold Apart
    -- Both ways lead to the later one of the two days.
    rw [← iterate_next_first ha, ← iterate_next_first hb, ← Function.iterate_add_apply,
      ← Function.iterate_add_apply, iterate_next_first ha, iterate_next_first hb]
    congr 1
    omega

end Date

end StorageMetadata
