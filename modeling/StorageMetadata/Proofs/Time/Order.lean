import Mathlib.Data.Char
import Mathlib.Data.String.Basic
import StorageMetadata.Proofs.Time.Succession
import StorageMetadata.Proofs.Time.Timestamp
import StorageMetadata.Resource.Instant

/-!
# Timestamps sort like instants

Every part of a timestamp has a fixed width, leading zeros included, and the parts stand in the order
of their weight.  So two timestamps compare as texts the way their parts compare as numbers, the year
first, and those compare the way the instants do,

    write m < write n ↔ m < n.

That a later day has a later date is a matter of turning the pages of the calendar: the next day has a
later date, and so has every day after it.
-/

namespace StorageMetadata

open StorageMetadata.Text StorageMetadata.Decimal

/-! ### Numbers of fixed width -/

namespace Decimal

theorem digitChar_lt_digitChar {a b : Nat} (h : a < b) (hb : b < 10) :
    digitChar a < digitChar b := by
  have table : ∀ a b : Fin 10, a < b → digitChar a < digitChar b := by decide
  exact table ⟨a, by omega⟩ ⟨b, hb⟩ h

/-- The lesser number comes first, whatever follows it. -/
theorem padded_append_lt {width a b : Nat} (h : a < b) (hb : b < 10 ^ width) (x y : List Char) :
    padded width a ++ x < padded width b ++ y := by
  induction width generalizing a b x y with
  | zero =>
    rw [Nat.pow_zero] at hb
    omega
  | succ width ih =>
    rw [Nat.pow_succ] at hb
    rw [padded, padded, List.append_assoc, List.append_assoc]
    -- The numbers differ before the last digit, or only there.
    by_cases front : a / 10 < b / 10
    · exact ih front (by omega) _ _
    · have same : a / 10 = b / 10 := by omega
      rw [same]
      apply List.append_left_lt
      rw [List.singleton_append, List.singleton_append, List.cons_lt_cons_iff]
      exact Or.inl (digitChar_lt_digitChar (by omega) (Nat.mod_lt b (by decide)))

/-- Numbers in a row, each with its width and with the character after it. -/
def inColumns : List (Nat × Char) → List Nat → List Char
  | (width, stop) :: columns, n :: ns => padded width n ++ stop :: inColumns columns ns
  | _, _ => []

/-- Has each number no more digits than its column is wide? -/
def FitColumns (columns : List (Nat × Char)) (ns : List Nat) : Prop :=
  List.Forall₂ (fun column n => n < 10 ^ column.1) columns ns

/-- **Numbers in columns compare one after another.** -/
theorem inColumns_lt {columns : List (Nat × Char)} {ns ms : List Nat} (hms : FitColumns columns ms)
    (long : ns.length = ms.length) (h : ns < ms) : inColumns columns ns < inColumns columns ms := by
  induction hms generalizing ns with
  | nil => exact absurd h (List.not_lt_nil ns)
  | @cons column m columns ms fits _ ih =>
    cases ns with
    | nil => cases long
    | cons n ns =>
      rw [inColumns, inColumns]
      rcases List.cons_lt_cons_iff.1 h with less | ⟨rfl, rest⟩
      · exact padded_append_lt less fits _ _
      · apply List.append_left_lt
        rw [List.cons_lt_cons_iff]
        exact Or.inr ⟨rfl, ih (Nat.succ.inj long) rest⟩

end Decimal

/-! ### Dates -/

namespace Date

/-- Does the date come before the other one: by its year, else by its month, else by its day? -/
def Before (a b : Date) : Prop :=
  a.year < b.year ∨ a.year = b.year ∧ (a.month < b.month ∨ a.month = b.month ∧ a.day < b.day)

theorem Before.trans {a b c : Date} (h : a.Before b) (h' : b.Before c) : a.Before c := by
  simp only [Before] at h h' ⊢
  omega

/-- A page further the date is later. -/
theorem before_next (d : Date) : d.Before d.next := by
  unfold next Before
  split
  next => exact Or.inr ⟨rfl, Or.inr ⟨rfl, Nat.lt_succ_self d.day⟩⟩
  next =>
    split
    next => exact Or.inr ⟨rfl, Or.inl (Nat.lt_succ_self d.month)⟩
    next => exact Or.inl (Nat.lt_succ_self d.year)

theorem before_iterate_next (d : Date) (n : Nat) : d.Before (next^[n + 1] d) := by
  induction n with
  | zero => exact before_next d
  | succ n ih =>
    rw [Function.iterate_succ_apply']
    exact ih.trans (before_next _)

/-- **A later day has a later date.** -/
theorem before_of_dayNumber_lt {a b : Date} (ha : a.Proper) (hb : b.Proper)
    (h : a.dayNumber < b.dayNumber) : a.Before b := by
  obtain ⟨k, hk⟩ : ∃ k, b.dayNumber = k + 1 + a.dayNumber := ⟨b.dayNumber - a.dayNumber - 1, by omega⟩
  have later : next^[k + 1] a = b := by
    rw [← iterate_next_first ha, ← Function.iterate_add_apply, ← hk, iterate_next_first hb]
  exact later ▸ before_iterate_next a k

end Date

namespace Timestamp

/-! ### Times of day -/

/-- Does a clock show this time before the other one on the same day? -/
def Clock.Before (a b : Clock) : Prop :=
  a.hour < b.hour ∨ a.hour = b.hour ∧ (a.minute < b.minute ∨ a.minute = b.minute ∧
    (a.second < b.second ∨ a.second = b.second ∧ a.milli < b.milli))

theorem Clock.before_ofMillis {m n : Nat} (h : m < n) :
    (Clock.ofMillis m).Before (Clock.ofMillis n) := by
  simp only [Clock.Before, Clock.ofMillis]
  omega

/-! ### Timestamps -/

/-- The columns of a timestamp. -/
def columns : List (Nat × Char) :=
  [(4, '-'), (2, '-'), (2, 'T'), (2, ':'), (2, ':'), (2, '.'), (3, 'Z')]

/-- The numbers in the columns of a timestamp. -/
def numbers (d : Date) (c : Clock) : List Nat :=
  [d.year, d.month, d.day, c.hour, c.minute, c.second, c.milli]

theorem chars_eq_inColumns (d : Date) (c : Clock) : chars d c = inColumns columns (numbers d c) := by
  simp only [chars, columns, numbers, inColumns, List.append_assoc, List.cons_append]

theorem fitColumns_numbers {d : Date} {c : Clock} (hd : d.Exists) (hc : c.Valid) :
    FitColumns columns (numbers d c) := by
  obtain ⟨-, year, -, month, -, day⟩ := hd
  obtain ⟨hour, minute, second, milli⟩ := hc
  have short := daysInMonth_le d.year d.month
  simp only [lastYear] at year
  refine .cons ?year (.cons ?month (.cons ?day (.cons ?hour (.cons ?minute (.cons ?second
    (.cons ?milli .nil))))))
  all_goals
    dsimp only
    omega

theorem numbers_lt_of_before {d d' : Date} (h : d.Before d') (c c' : Clock) :
    numbers d c < numbers d' c' := by
  simp only [numbers, List.cons_lt_cons_iff]
  simp only [Date.Before] at h
  omega

theorem numbers_lt_of_clock_before (d : Date) {c c' : Clock} (h : c.Before c') :
    numbers d c < numbers d c' := by
  simp only [numbers, List.cons_lt_cons_iff, List.not_lt_nil, Nat.lt_irrefl, true_and, and_false,
    false_or, or_false]
  exact h

/-- A later instant is on a later day, or at a later time of the same day. -/
theorem numbers_split_lt {m n : Int} (hm : InRange m) (hn : InRange n) (h : m < n) :
    numbers (split m).1 (split m).2 < numbers (split n).1 (split n).2 := by
  obtain ⟨day, number, clock⟩ := split_spec hm
  obtain ⟨day', number', clock'⟩ := split_spec hn
  have later : (m - firstMillis).toNat < (n - firstMillis).toNat := by
    have first := hm.1
    omega
  by_cases days : (m - firstMillis).toNat / 86400000 < (n - firstMillis).toNat / 86400000
  · rw [← number, ← number'] at days
    exact numbers_lt_of_before (Date.before_of_dayNumber_lt day.proper day'.proper days) _ _
  · have same : (m - firstMillis).toNat / 86400000 = (n - firstMillis).toNat / 86400000 := by omega
    have date : (split m).1 = (split n).1 := by
      rw [← Date.iterate_next_first day.proper, ← Date.iterate_next_first day'.proper, number,
        number', same]
    rw [date, clock, clock']
    exact numbers_lt_of_clock_before _ (Clock.before_ofMillis (by omega))

theorem write_lt_write {m n : Int} (hm : InRange m) (hn : InRange n) (h : m < n) :
    write m < write n := by
  have valid : (split n).2.Valid := by
    rw [(split_spec hn).2.2]
    exact Clock.valid_ofMillis (Nat.mod_lt _ (by decide))
  rw [String.lt_iff, write, write, String.toList_ofList, String.toList_ofList, chars_eq_inColumns,
    chars_eq_inColumns]
  exact inColumns_lt (fitColumns_numbers (split_spec hn).1 valid) rfl (numbers_split_lt hm hn h)

/-- **Timestamps compare as texts the way their instants do.** -/
theorem write_lt_write_iff {m n : Int} (hm : InRange m) (hn : InRange n) :
    write m < write n ↔ m < n := by
  constructor
  · intro h
    by_contra not
    rcases Int.lt_or_eq_of_le (Int.not_lt.1 not) with later | same
    · exact lt_asymm h (write_lt_write hn hm later)
    · rw [same] at h
      exact lt_irrefl _ h
  · exact write_lt_write hm hn

end Timestamp

namespace Resource

open StorageMetadata.Timestamp

/-- **What is written for instants sorts like them.**  The instants of the years 1 to 9999 all have
timestamps, and as texts, compared by the code points of their characters, these are in the order of
the instants. -/
theorem writeInstant_int_sorted (field : String) {m n : Int}
    (hm : -62135596800000 ≤ m ∧ m ≤ 253402300799999)
    (hn : -62135596800000 ≤ n ∧ n ≤ 253402300799999) :
    ∃ s t, writeInstant field (.int m) = .ok s ∧ writeInstant field (.int n) = .ok t ∧
      (m < n ↔ s < t) := by
  refine ⟨Timestamp.write m, Timestamp.write n, ?_, ?_, (write_lt_write_iff hm hn).symm⟩
  · rw [writeInstant_int]
    exact if_pos hm
  · rw [writeInstant_int]
    exact if_pos hn

/-- The last millisecond of a year with three digits and the first of one with four. -/
theorem writeInstant_int_millennium :
    writeInstant "updated" (.int (-30610224000001)) = .ok "0999-12-31T23:59:59.999Z" ∧
      writeInstant "updated" (.int (-30610224000000)) = .ok "1000-01-01T00:00:00.000Z" ∧
      "0999-12-31T23:59:59.999Z" < "1000-01-01T00:00:00.000Z" := by
  have before : writeInstant "updated" (.int (-30610224000001)) = .ok "0999-12-31T23:59:59.999Z" :=
    rfl
  have after : writeInstant "updated" (.int (-30610224000000)) = .ok "1000-01-01T00:00:00.000Z" :=
    rfl
  obtain ⟨s, t, hs, ht, order⟩ := writeInstant_int_sorted "updated" (m := -30610224000001)
    (n := -30610224000000) (by decide) (by decide)
  rw [before] at hs
  rw [after] at ht
  cases hs
  cases ht
  exact ⟨before, after, order.1 (by decide)⟩

end Resource

end StorageMetadata
