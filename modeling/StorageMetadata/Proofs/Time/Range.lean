import Mathlib.Data.Option.Basic
import StorageMetadata.Proofs.Time.Span
import StorageMetadata.Proofs.Time.Week

/-!
# How far a timestamp reaches

Every date that can be read is one of the years 1 to 9999, and local time is less than a day ahead
of universal time or behind it.  So an instant that was read lies less than a day before the first
instant or after the last one that has a timestamp,

    read? s = some n → NearRange n,

and an offset can carry it out of the range.
-/

namespace StorageMetadata.Timestamp

open StorageMetadata.Text StorageMetadata.Decimal

/-! ### What a chain of readers gives -/

/-- Is whatever the reader gives of the kind `P`? -/
def Gives {α : Type} (P : α → Prop) (x : Option α) : Prop := ∀ a, x = some a → P a

section

variable {α β : Type} {P : α → Prop}

theorem gives_none : Gives P none := by
  intro a h
  cases h

theorem gives_some {a : α} (ha : P a) : Gives P (some a) := by
  intro b h
  cases h
  exact ha

/-- A chain of readers gives what its last one does. -/
theorem gives_bind {x : Option β} {f : β → Option α} (h : ∀ b, x = some b → Gives P (f b)) :
    Gives P (x >>= f) := by
  intro a ha
  obtain ⟨b, hb, hf⟩ := Option.bind_eq_some_iff.1 ha
  exact h b hb a hf

end

/-! ### Dates -/

theorem gives_dayOfDate? (year month day : Nat) :
    Gives (· < endOfDays) (dayOfDate? year month day) := by
  simp only [dayOfDate?]
  split
  next found => exact gives_some (Date.dayNumber_lt found)
  next => exact gives_none

theorem gives_dayOfWeekDate? (year week weekday : Nat) :
    Gives (· < endOfDays) (dayOfWeekDate? year week weekday) := by
  simp only [dayOfWeekDate?]
  split
  next bounds =>
    obtain ⟨-, -, -, -, -, -, before⟩ := bounds
    exact gives_some before
  next => exact gives_none

theorem gives_day? (cs : List Char) : Gives (· < endOfDays) (day? cs) := by
  unfold day?
  split
  · exact gives_bind fun _ _ => gives_bind fun _ _ => gives_bind fun _ _ =>
      gives_dayOfWeekDate? _ _ _
  · exact gives_bind fun _ _ => gives_bind fun _ _ => gives_bind fun _ _ =>
      gives_dayOfDate? _ _ _
  · exact gives_bind fun _ _ => gives_bind fun _ _ => gives_dayOfWeekDate? _ _ _
  · exact gives_bind fun _ _ => gives_bind fun _ _ => gives_bind fun _ _ =>
      gives_dayOfWeekDate? _ _ _
  · exact gives_bind fun _ _ => gives_bind fun _ _ => gives_bind fun _ _ =>
      gives_dayOfDate? _ _ _
  · exact gives_bind fun _ _ => gives_bind fun _ _ => gives_dayOfWeekDate? _ _ _
  · exact gives_none

/-! ### Times of day -/

/-- A fraction is less than a second. -/
theorem SpellsMicros.lt {micros : Nat} {left cs : List Char} (h : SpellsMicros micros left cs) :
    micros < 1000000 := by
  obtain ⟨_, ds, read, -, rfl, -⟩ := h
  rw [Nat.div_lt_iff_lt_mul (Nat.pow_pos (by decide))]
  exact Nat.mul_lt_mul_of_pos_left (digitsValue_lt (lt_of_mapM_asciiDigit? read)) (by decide)

theorem SpellsTail.lt {micros : Nat} {left cs : List Char} (h : SpellsTail micros left cs) :
    micros < 1000000 := by
  cases h with
  | nothing => decide
  | character _ => decide
  | fraction _ fraction => exact fraction.lt

theorem SpellsNumbers.lt {separator : List Char} {more micros : Nat} {ns : List Nat}
    {left cs : List Char} (h : SpellsNumbers separator more ns micros left cs) :
    micros < 1000000 := by
  induction h with
  | last _ behind => exact behind.lt
  | fraction _ fraction _ => exact fraction.lt
  | next _ _ ih => exact ih

theorem micros_lt_of_span? {cs left : List Char} {s : Span} (h : span? cs = some (s, left)) :
    s.micros < 1000000 := by
  obtain ⟨_, _, -, spells, -⟩ := span?_eq_some_iff.1 h
  exact spells.lt

/-- Local time is less than a day ahead of universal time or behind it. -/
theorem offset?_lt {cs : List Char} {n : Int} (h : offset? cs = some n) :
    -(microsPerDay : Int) < n ∧ n < microsPerDay := by
  unfold offset? at h
  split at h
  · cases h
    decide
  · obtain ⟨_, -, h⟩ := Option.bind_eq_some_iff.1 h
    cases h
    decide
  next sign rest _ =>
    obtain ⟨_, -, h⟩ := Option.bind_eq_some_iff.1 h
    obtain ⟨⟨s, left⟩, -, h⟩ := Option.bind_eq_some_iff.1 h
    obtain ⟨_, below, h⟩ := Option.bind_eq_some_iff.1 h
    have below : s.toMicros < microsPerDay := ((Option.guard_eq_some' _).1 below).2
    have counted : (0 : Int) ≤ (if s.toMicros < 1000000 then 0 else s.toMicros) ∧
        (if s.toMicros < 1000000 then 0 else s.toMicros : Int) < microsPerDay := by
      split <;> omega
    have hn : (if sign = '-' then -(if s.toMicros < 1000000 then 0 else s.toMicros : Int)
      else if s.toMicros < 1000000 then 0 else s.toMicros) = n := Option.some.inj h
    split at hn
    · omega
    · omega

theorem time?_lt {cs : List Char} {n : Int} (h : time? cs = some n) :
    -(microsPerDay : Int) < n ∧ n < 2 * microsPerDay := by
  unfold time? at h
  obtain ⟨⟨clock, left⟩, hclock, h⟩ := Option.bind_eq_some_iff.1 h
  obtain ⟨_, bounds, h⟩ := Option.bind_eq_some_iff.1 h
  obtain ⟨_, -, h⟩ := Option.bind_eq_some_iff.1 h
  obtain ⟨ahead, hahead, h⟩ := Option.bind_eq_some_iff.1 h
  have bounds : clock.hours < 24 ∧ clock.minutes < 60 ∧ clock.seconds < 60 :=
    (Option.guard_eq_some' _).1 bounds
  have fraction : clock.micros < 1000000 := micros_lt_of_span? hclock
  have offset := offset?_lt hahead
  have hn : (clock.toMicros : Int) - ahead = n := Option.some.inj h
  simp only [Span.toMicros] at hn
  simp only [microsPerDay] at offset ⊢
  omega

theorem timeBehind?_lt {cs : List Char} {n : Int} (h : timeBehind? cs = some n) :
    -(microsPerDay : Int) < n ∧ n < 2 * microsPerDay := by
  cases cs with
  | nil =>
    cases h
    decide
  | cons c clock => exact time?_lt h

/-! ### Instants -/

/-- Does the instant lie at most a day outside of the years that a timestamp can name, if not in
one of them? -/
def NearRange (millis : Int) : Prop :=
  firstMillis - millisPerDay ≤ millis ∧ millis ≤ lastMillis + millisPerDay

/-- **An instant that was read is in range but for the offset.** -/
theorem nearRange_of_read? {s : String} {n : Int} (h : read? s = some n) : NearRange n := by
  unfold read? readChars? at h
  obtain ⟨_, -, h⟩ := Option.bind_eq_some_iff.1 h
  obtain ⟨day, hday, h⟩ := Option.bind_eq_some_iff.1 h
  have date : day < endOfDays := gives_day? _ day hday
  obtain ⟨micros, hmicros, h⟩ := Option.bind_eq_some_iff.1 h
  have time := timeBehind?_lt hmicros
  have hn : (((day : Int) - epochDay) * microsPerDay + micros) / 1000 = n := Option.some.inj h
  simp only [NearRange, firstMillis, lastMillis, millisPerDay]
  simp only [endOfDays] at date
  simp only [epochDay, microsPerDay] at hn time
  omega

end StorageMetadata.Timestamp
