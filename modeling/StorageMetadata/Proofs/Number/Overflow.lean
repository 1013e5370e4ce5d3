import StorageMetadata.Proofs.Number.Binary64
import StorageMetadata.Proofs.Number.Rounding

/-!
# Integers beyond the binary numbers

The largest number of 64 bits is `2 ^ 1024 - 2 ^ 971`, and an integer from halfway to `2 ^ 1024` on is
rounded to an infinity,

    ofInt n = infinite (n < 0)   if   leastInfinite ≤ |n|,

as the significand of `2 ^ 1024` is even.
-/

namespace StorageMetadata.Binary64

/-- The least integer that is rounded to an infinity. -/
def leastInfinite : Nat := 2 ^ 1024 - 2 ^ 970

/-- What the least infinite integer and the powers of two around it are in units of the last place but
one. -/
theorem exists_unit : ∃ unit : Nat, 2 ^ 971 = 2 * unit ∧ 2 ^ 1023 = 2 ^ 53 * unit ∧
    2 ^ 1024 = 2 ^ 54 * unit ∧ leastInfinite = 2 ^ 54 * unit - unit := by
  have place : 971 = 970 + 1 := rfl
  have half : 1023 = 53 + 970 := rfl
  have whole : 1024 = 54 + 970 := rfl
  refine ⟨2 ^ 970, ?_, ?_, ?_, ?_⟩
  · rw [place, pow_succ']
  · rw [half, pow_add]
  · rw [whole, pow_add]
  · rw [leastInfinite, whole, pow_add]

theorem scaleUp_one (k : Nat) : scaleUp 1 k = 2 ^ k := Nat.one_mul _

section

variable {n : Nat} (pos : 0 < n)
include pos

theorem le_log2_iff (k : Nat) : k ≤ n.log2 ↔ 2 ^ k ≤ n := Nat.le_log2 pos.ne'

theorem unitExponent_one : unitExponent n 1 = (n.log2 : Int) - 52 := by
  have none : Nat.log2 1 = 0 := by decide
  have reaches : scaleUp 1 (n.log2 : Int) ≤ scaleUp n (-(n.log2 : Int)) := by
    have up : (n.log2 : Int).toNat = n.log2 := Int.toNat_natCast _
    have down : (-(n.log2 : Int)).toNat = 0 := by omega
    rw [scaleUp, scaleUp, up, down, Nat.one_mul]
    exact (Nat.log2_self_le pos.ne').trans_eq (Nat.mul_one n).symm
  simp only [unitExponent, none, Nat.cast_zero, sub_zero, if_pos reaches, leastExponent]
  omega

/-- An integer of at most 1023 binary digits is nearest to a finite number. -/
theorem exists_ofRatio_of_log2_lt (negative : Bool) (short : n.log2 < 1023) :
    ∃ m e, ofRatio negative n 1 = .finite negative m e := by
  rw [ofRatio, if_neg pos.ne', unitExponent_one pos]
  dsimp only
  split
  next => rw [if_neg (by simp only [greatestExponent]; omega)]; exact ⟨_, _, rfl⟩
  next => rw [if_neg (by simp only [greatestExponent]; omega)]; exact ⟨_, _, rfl⟩

/-- An integer of more than 1024 binary digits is beyond the finite numbers. -/
theorem ofRatio_of_lt_log2 (negative : Bool) (long : 1023 < n.log2) :
    ofRatio negative n 1 = .infinite negative := by
  rw [ofRatio, if_neg pos.ne', unitExponent_one pos]
  dsimp only
  split
  next => rw [if_pos (by simp only [greatestExponent]; omega)]
  next => rw [if_pos (by simp only [greatestExponent]; omega)]

/-- With 1024 binary digits it depends on whether the significand is rounded up to the next power. -/
theorem ofRatio_of_log2_eq (negative : Bool) (h : n.log2 = 1023) :
    (leastInfinite ≤ n → ofRatio negative n 1 = .infinite negative) ∧
      (n < leastInfinite → ∃ m e, ofRatio negative n 1 = .finite negative m e) := by
  obtain ⟨unit, place, -, power, least⟩ := exists_unit
  have below : n < 2 ^ 54 * unit := by
    rw [← power, ← Nat.not_le, ← le_log2_iff pos]
    omega
  have num : scaleUp n (-((1023 : Nat) - 52 : Int)) = n := Nat.mul_one n
  have den : scaleUp 1 ((1023 : Nat) - 52 : Int) = 2 * unit := by
    have last : ((1023 : Nat) : Int) - 52 = (971 : Nat) := by decide
    rw [last, scaleUp_one, place]
  -- The significand reaches the next power exactly if the integer is halfway to it.
  have up : roundHalfEven n (2 * unit) = Nat.pow 2 53 ↔ leastInfinite ≤ n := by
    have most : roundHalfEven n (2 * unit) ≤ 2 ^ 53 := roundHalfEven_le (by omega) (by omega)
    have reached := @even_le_roundHalfEven_iff n (2 * unit) (2 ^ 53) (by omega) (by decide)
    rw [least]
    constructor
    · intro full
      have := reached.1 full.ge
      omega
    · intro half
      exact Nat.le_antisymm most (reached.2 (by omega))
  rw [ofRatio, if_neg pos.ne', unitExponent_one pos, h]
  simp only [num, den]
  constructor
  · intro half
    rw [if_pos (up.2 half)]
    rfl
  · intro short
    rw [if_neg fun full => absurd (up.1 full) (Nat.not_le.2 short)]
    exact ⟨_, _, rfl⟩

end

/-- The powers of two on either side of the least infinite integer. -/
theorem leastInfinite_bounds : 2 ^ 1023 ≤ leastInfinite ∧ leastInfinite ≤ 2 ^ 1024 := by
  obtain ⟨unit, -, half, whole, least⟩ := exists_unit
  rw [half, whole, least]
  omega

variable {n : Int}

/-- **From the least infinite integer on, integers are rounded to an infinity.** -/
theorem ofInt_of_le (h : leastInfinite ≤ n.natAbs) : ofInt n = .infinite (decide (n < 0)) := by
  have large : 2 ^ 1023 ≤ n.natAbs := leastInfinite_bounds.1.trans h
  have pos : 0 < n.natAbs := (pow_pos (by decide) 1023).trans_le large
  have long : 1023 ≤ n.natAbs.log2 := (le_log2_iff pos 1023).2 large
  rcases Nat.eq_or_lt_of_le long with exact' | longer
  · exact (ofRatio_of_log2_eq pos _ exact'.symm).1 h
  · exact ofRatio_of_lt_log2 pos _ longer

/-- **Every integer of smaller magnitude is nearest to a finite number.** -/
theorem exists_ofInt_of_lt (h : n.natAbs < leastInfinite) :
    ∃ m e, ofInt n = .finite (decide (n < 0)) m e := by
  by_cases zero : n = 0
  · subst zero
    exact ⟨0, leastExponent, rfl⟩
  · have pos : 0 < n.natAbs := Int.natAbs_pos.2 zero
    have short : n.natAbs.log2 < 1024 := by
      rw [← Nat.not_le, le_log2_iff pos, Nat.not_le]
      exact h.trans_le leastInfinite_bounds.2
    rcases Nat.eq_or_lt_of_le (Nat.le_of_lt_succ short) with exact' | shorter
    · exact (ofRatio_of_log2_eq pos _ exact').2 h
    · exact exists_ofRatio_of_log2_lt pos _ shorter

end StorageMetadata.Binary64
