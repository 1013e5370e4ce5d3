import Mathlib.Algebra.Field.Rat
import Mathlib.Algebra.Order.Field.Basic
import Mathlib.Algebra.Order.Ring.Rat
import Mathlib.Algebra.Ring.Int.Parity
import Mathlib.Tactic.FieldSimp
import Mathlib.Tactic.Linarith
import Mathlib.Tactic.Positivity
import Mathlib.Tactic.Ring
import StorageMetadata.Number.Rounding

/-!
# The nearest integer

`IsNearest x t` says what `roundHalfEven` is to find: no integer is nearer to `x` than `t`, and `t` is
even if another one is as near,

    IsNearest (num / den) (roundHalfEven num den).
-/

namespace StorageMetadata

/-- Is `t` the integer nearest to `x`, and even if another one is as near? -/
def IsNearest (x : ℚ) (t : Int) : Prop := |x - t| ≤ 1 / 2 ∧ (|x - t| = 1 / 2 → Even t)

theorem IsNearest.neg {x : ℚ} {t : Int} (h : IsNearest x t) : IsNearest (-x) (-t) := by
  have distance : |-x - ((-t : Int) : ℚ)| = |x - t| := by
    rw [Int.cast_neg, sub_neg_eq_add, neg_add_eq_sub, abs_sub_comm]
  rw [IsNearest, distance]
  exact ⟨h.1, fun tie => (h.2 tie).neg⟩

/-- A number of tenths of a unit is within a twentieth of it. -/
theorem IsNearest.within {x unit : ℚ} {t : Int} (h : IsNearest (10 * (x / unit)) t)
    (pos : 0 < unit) : |(t : ℚ) / 10 * unit - x| ≤ unit / 20 := by
  have scaled : (t : ℚ) / 10 * unit - x = -(unit / 10) * (10 * (x / unit) - t) := by
    field_simp
    ring
  rw [scaled, abs_mul, abs_neg, abs_of_pos (div_pos pos (by norm_num))]
  calc unit / 10 * |10 * (x / unit) - t| ≤ unit / 10 * (1 / 2) :=
        mul_le_mul_of_nonneg_left h.1 (div_pos pos (by norm_num)).le
    _ = unit / 20 := by ring

/-- Halfway between two integers the even one is taken. -/
theorem even_roundHalfEven {num den : Nat} (pos : 0 < den)
    (tie : 2 * num + den = 2 * (roundHalfEven num den * den) ∨
      2 * num = 2 * (roundHalfEven num den * den) + den) : Even (roundHalfEven num den) := by
  have divided := Nat.div_add_mod num den
  have below := Nat.mod_lt num pos
  rw [Nat.even_iff]
  unfold roundHalfEven at tie ⊢
  dsimp only at tie ⊢
  split at tie
  next up =>
    rw [Nat.add_mul, Nat.mul_comm (num / den)] at tie
    rw [if_pos up]
    omega
  next down =>
    rw [Nat.mul_comm (num / den)] at tie
    rw [if_neg down]
    omega

theorem isNearest_roundHalfEven {num den : Nat} (pos : 0 < den) :
    IsNearest ((num : ℚ) / den) (roundHalfEven num den) := by
  obtain ⟨t, ht⟩ : ∃ t, t = roundHalfEven num den := ⟨_, rfl⟩
  have near := @roundHalfEven_near num den pos
  have even := @even_roundHalfEven num den pos
  rw [← ht] at near even ⊢
  have positive : (0 : ℚ) < den := by exact_mod_cast pos
  have distance : |(num : ℚ) / den - (t : Int)| = |(num : ℚ) - t * den| / den := by
    rw [Int.cast_natCast, div_sub' positive.ne', abs_div, abs_of_pos positive, mul_comm (den : ℚ)]
  have low : (2 : ℚ) * (t * den) ≤ 2 * num + den := by exact_mod_cast near.1
  have high : (2 : ℚ) * num ≤ 2 * (t * den) + den := by exact_mod_cast near.2
  rw [IsNearest, distance]
  constructor
  · rw [div_le_div_iff₀ positive two_pos, ← le_div_iff₀ two_pos, abs_le]
    constructor
    · linarith
    · linarith
  · intro tie
    rw [div_eq_div_iff positive.ne' two_ne_zero, ← eq_div_iff two_ne_zero, abs_eq (by positivity)]
      at tie
    apply (Int.even_coe_nat t).2
    apply even
    rcases tie with above | below
    · right
      have : (2 : ℚ) * num = 2 * (t * den) + den := by linarith
      exact_mod_cast this
    · left
      have : (2 : ℚ) * num + den = 2 * (t * den) := by linarith
      exact_mod_cast this

/-- Rounding does not go below an integer that the quotient reaches. -/
theorem le_roundHalfEven {num den a : Nat} (pos : 0 < den) (h : a * den ≤ num) :
    a ≤ roundHalfEven num den := by
  have floor : a ≤ num / den := (Nat.le_div_iff_mul_le pos).2 h
  unfold roundHalfEven
  dsimp only
  split
  next => omega
  next => exact floor

/-- Rounding does not go above an integer that the quotient does not exceed. -/
theorem roundHalfEven_le {num den a : Nat} (pos : 0 < den) (h : num ≤ a * den) :
    roundHalfEven num den ≤ a := by
  obtain ⟨low, -⟩ := @roundHalfEven_near num den pos
  by_contra more
  have step : (a + 1) * den ≤ roundHalfEven num den * den := Nat.mul_le_mul_right den (by omega)
  rw [Nat.succ_mul] at step
  omega

/-- An even number is what is rounded to from half a unit below it on. -/
theorem even_le_roundHalfEven_iff {num den a : Nat} (pos : 0 < den) (even : Even a) :
    a ≤ roundHalfEven num den ↔ 2 * (a * den) ≤ 2 * num + den := by
  obtain ⟨low, high⟩ := @roundHalfEven_near num den pos
  constructor
  · intro h
    have scaled := Nat.mul_le_mul_right den h
    omega
  · intro h
    by_contra below
    have next : a = roundHalfEven num den + 1 := by
      by_contra far
      have steps : (roundHalfEven num den + 2) * den ≤ a * den :=
        Nat.mul_le_mul_right den (by omega)
      rw [Nat.add_mul] at steps
      omega
    -- The quotient is halfway between two neighbours, and rounding chose the odd one.
    have tie : 2 * num = 2 * (roundHalfEven num den * den) + den := by
      rw [next, Nat.succ_mul (roundHalfEven num den)] at h
      omega
    have chosen := even_roundHalfEven pos (Or.inr tie)
    rw [Nat.even_iff] at even chosen
    omega

theorem roundHalfEven_mul_left {c : Nat} (pos : 0 < c) (num den : Nat) :
    roundHalfEven (c * num) (c * den) = roundHalfEven num den := by
  have twice : 2 * (c * (num % den)) = c * (2 * (num % den)) := by rw [Nat.mul_left_comm]
  simp only [roundHalfEven, Nat.mul_div_mul_left _ _ pos, Nat.mul_mod_mul_left, twice,
    Nat.mul_lt_mul_left pos, Nat.mul_right_inj pos.ne']

end StorageMetadata
