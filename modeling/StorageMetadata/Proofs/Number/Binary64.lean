import Mathlib.Algebra.Field.Rat
import Mathlib.Algebra.Order.Ring.Rat
import Mathlib.Tactic.FieldSimp
import Mathlib.Tactic.Ring
import StorageMetadata.Proofs.Value.Kinds

/-!
# The value of a binary number

`Binary64.rational?` is the exact value of a finite number, and what is asked of a number is answered
by its value: the integer that it is equal to, and whether it is less or greater than an integer.

An integer of less than 53 binary digits is a number of 64 bits, and so is what it becomes when it is
divided by a power of two: nothing is rounded away,

    rational? (ofRatio negative n (2 ^ j)) = some (± n / 2 ^ j),

and dividing in several steps (`Binary64.dividedBy`) comes to the same.
-/

namespace StorageMetadata.Binary64

/-- The sign of a number. -/
def sign (negative : Bool) : ℚ := if negative then -1 else 1

/-- The value of a finite number. -/
def rational? : Binary64 → Option ℚ
  | .finite negative m e => some (sign negative * m * 2 ^ e)
  | _ => none

/-! ### Numerator and denominator -/

theorem denominator_pos (e : Int) : 0 < denominator e := Nat.two_pow_pos _

theorem numerator_div_denominator (m : Nat) (e : Int) :
    (numerator m e : ℚ) / denominator e = m * 2 ^ e := by
  obtain ⟨k, rfl | rfl⟩ := e.eq_nat_or_neg
  · simp [numerator, denominator, scaleUp]
  · simp [numerator, denominator, scaleUp, div_eq_mul_inv]

theorem signed_mul (negative : Bool) (a b : Nat) :
    signed negative (a * b) = signed negative a * b := by
  cases negative
  · simp [signed]
  · simp [signed]

theorem cast_signed (negative : Bool) (n : Nat) :
    ((signed negative n : Int) : ℚ) = sign negative * n := by
  cases negative
  · simp [signed, sign]
  · simp [signed, sign]

theorem signed_natAbs (n : Int) : signed (decide (n < 0)) n.natAbs = n := by
  simp only [signed, decide_eq_true_eq]
  split
  · omega
  · omega

@[simp] theorem rational?_zero (negative : Bool) : (zero negative).rational? = some 0 := by
  simp [zero, rational?]

/-- The value is the quotient of two integers. -/
theorem rational?_finite (negative : Bool) (m : Nat) (e : Int) :
    (finite negative m e).rational? =
      some (((signed negative (numerator m e) : Int) : ℚ) / (denominator e : ℚ)) := by
  rw [rational?, cast_signed, mul_assoc, ← numerator_div_denominator, mul_div_assoc]

/-- **A number is equal to the integer that is its value.** -/
theorem toInt?_eq_some_iff {x : Binary64} {n : Int} :
    x.toInt? = some n ↔ x.rational? = some (n : ℚ) := by
  cases x with
  | infinite _ => simp [toInt?, rational?]
  | nan _ => simp [toInt?, rational?]
  | finite negative m e =>
    have pos := denominator_pos e
    have nonzero : (denominator e : ℚ) ≠ 0 := by exact_mod_cast pos.ne'
    have cleared : (finite negative m e).rational? = some (n : ℚ) ↔
        signed negative (numerator m e) = n * denominator e := by
      rw [rational?_finite, Option.some.injEq, div_eq_iff nonzero]
      exact_mod_cast Iff.rfl
    rw [cleared, toInt?]
    constructor
    · intro whole
      split at whole
      next divides =>
        cases whole
        rw [← signed_mul, Nat.div_mul_cancel (Nat.dvd_of_mod_eq_zero divides)]
      next => cases whole
    · intro whole
      have magnitude : numerator m e = n.natAbs * denominator e := by
        have abs := congrArg Int.natAbs whole
        rwa [natAbs_signed, Int.natAbs_mul, Int.natAbs_natCast] at abs
      rw [magnitude, signed_mul] at whole
      rw [magnitude, Nat.mul_mod_left, if_pos rfl, Nat.mul_div_cancel _ pos]
      refine congrArg some (Int.eq_of_mul_eq_mul_right ?_ whole)
      exact_mod_cast pos.ne'

/-- A finite number is less than the integers that its value is less than. -/
theorem ltInt_iff {x : Binary64} {q : ℚ} (value : x.rational? = some q) (n : Int) :
    x.ltInt n = true ↔ q < n := by
  cases x with
  | infinite _ => cases value
  | nan _ => cases value
  | finite negative m e =>
    rw [rational?_finite] at value
    cases value
    have pos : (0 : ℚ) < denominator e := by exact_mod_cast denominator_pos e
    rw [ltInt, decide_eq_true_iff, div_lt_iff₀ pos]
    exact_mod_cast Iff.rfl

/-- A finite number is greater than the integers that its value is greater than. -/
theorem gtInt_iff {x : Binary64} {q : ℚ} (value : x.rational? = some q) (n : Int) :
    x.gtInt n = true ↔ n < q := by
  cases x with
  | infinite _ => cases value
  | nan _ => cases value
  | finite negative m e =>
    rw [rational?_finite] at value
    cases value
    have pos : (0 : ℚ) < denominator e := by exact_mod_cast denominator_pos e
    rw [gtInt, decide_eq_true_iff, lt_div_iff₀ pos]
    exact_mod_cast Iff.rfl

/-! ### Division by a power of two -/

section

variable {n j : Nat} (pos : 0 < n) (small : n < 2 ^ 53)
include pos small

theorem log2_bounds : 2 ^ n.log2 ≤ n ∧ n < 2 ^ (n.log2 + 1) ∧ n.log2 ≤ 52 := by
  refine ⟨Nat.log2_self_le pos.ne', Nat.lt_log2_self, ?_⟩
  have := (Nat.log2_lt pos.ne').2 small
  omega

/-- The unit in the last place, so chosen that the significand has 53 binary digits. -/
theorem unitExponent_two_pow (short : j ≤ 1022) :
    unitExponent n (2 ^ j) = (n.log2 : Int) - j - 52 := by
  obtain ⟨low, -, bound⟩ := log2_bounds pos small
  have reaches : scaleUp (2 ^ j) ((n.log2 : Int) - j) ≤ scaleUp n (-((n.log2 : Int) - j)) := by
    have up : ((n.log2 : Int) - j).toNat = n.log2 - j := by omega
    have down : (-((n.log2 : Int) - j)).toNat = j - n.log2 := by omega
    rw [scaleUp, scaleUp, up, down]
    calc 2 ^ j * 2 ^ (n.log2 - j) = 2 ^ n.log2 * 2 ^ (j - n.log2) := by
          rw [← Nat.pow_add, ← Nat.pow_add]
          congr 1
          omega
      _ ≤ n * 2 ^ (j - n.log2) := Nat.mul_le_mul_right _ low
  simp only [unitExponent, Nat.log2_two_pow, if_pos reaches, leastExponent]
  omega

theorem significand_lt : n * 2 ^ (52 - n.log2) < 2 ^ 53 := by
  obtain ⟨-, high, bound⟩ := log2_bounds pos small
  calc n * 2 ^ (52 - n.log2) < 2 ^ (n.log2 + 1) * 2 ^ (52 - n.log2) :=
        Nat.mul_lt_mul_of_pos_right high (Nat.two_pow_pos _)
    _ = 2 ^ 53 := by
        rw [← Nat.pow_add]
        congr 1
        omega

/-- A number of few digits is divided by a power of two without rounding. -/
theorem ofRatio_two_pow (negative : Bool) (short : j ≤ 1022) : ofRatio negative n (2 ^ j) =
    .finite negative (n * 2 ^ (52 - n.log2)) ((n.log2 : Int) - j - 52) := by
  obtain ⟨-, -, bound⟩ := log2_bounds pos small
  have up : ((n.log2 : Int) - j - 52).toNat = 0 := by omega
  have down : (-((n.log2 : Int) - j - 52)).toNat = 52 - n.log2 + j := by omega
  have rounded : roundHalfEven (scaleUp n (-((n.log2 : Int) - j - 52)))
      (scaleUp (2 ^ j) ((n.log2 : Int) - j - 52)) = n * 2 ^ (52 - n.log2) := by
    rw [scaleUp, scaleUp, up, down]
    calc roundHalfEven (n * 2 ^ (52 - n.log2 + j)) (2 ^ j * 2 ^ 0)
        = roundHalfEven (n * 2 ^ (52 - n.log2) * 2 ^ j) (2 ^ j) := by
          rw [Nat.pow_add, Nat.pow_zero, Nat.mul_one, Nat.mul_assoc]
      _ = n * 2 ^ (52 - n.log2) := roundHalfEven_mul (Nat.two_pow_pos j) _
  have full : n * 2 ^ (52 - n.log2) ≠ Nat.pow 2 53 := (significand_lt pos small).ne
  have finite' : ¬greatestExponent < (n.log2 : Int) - j - 52 := by
    simp only [greatestExponent]
    omega
  rw [ofRatio, if_neg pos.ne', unitExponent_two_pow pos small short]
  simp only [rounded, if_neg full, if_neg finite']

/-- **The quotient is exact.** -/
theorem rational?_ofRatio_two_pow (negative : Bool) (short : j ≤ 1022) :
    (ofRatio negative n (2 ^ j)).rational? = some (sign negative * n / 2 ^ j) := by
  obtain ⟨-, -, bound⟩ := log2_bounds pos small
  have power : (2 : ℚ) ^ (52 - n.log2) * 2 ^ ((n.log2 : Int) - j - 52) = (2 ^ j)⁻¹ := by
    rw [← zpow_natCast, ← zpow_natCast, ← zpow_add₀ two_ne_zero, ← zpow_neg]
    congr 1
    omega
  rw [ofRatio_two_pow pos small negative short, rational?]
  push_cast
  rw [mul_assoc, mul_assoc, power, ← mul_assoc, div_eq_mul_inv]

end

/-- An integer of few digits is a number of 64 bits. -/
theorem exists_ofInt {n : Int} (small : n.natAbs < 2 ^ 53) :
    ∃ m e, ofInt n = .finite (decide (n < 0)) m e ∧
      numerator m e = n.natAbs * denominator e := by
  by_cases zero : n = 0
  · subst zero
    exact ⟨0, leastExponent, rfl, by rw [numerator, scaleUp]; simp⟩
  · have pos : 0 < n.natAbs := Int.natAbs_pos.2 zero
    obtain ⟨-, -, bound⟩ := log2_bounds pos small
    have unrounded := ofRatio_two_pow (j := 0) pos small (decide (n < 0)) (by omega)
    rw [Nat.pow_zero] at unrounded
    obtain ⟨e, he⟩ : ∃ e, e = (n.natAbs.log2 : Int) - (0 : Nat) - 52 := ⟨_, rfl⟩
    have up : e.toNat = 0 := by omega
    have down : (-e).toNat = 52 - n.natAbs.log2 := by omega
    refine ⟨n.natAbs * 2 ^ (52 - n.natAbs.log2), e, ?_, ?_⟩
    · rw [ofInt, unrounded, he]
    · rw [numerator, scaleUp, denominator, up, down]
      exact Nat.mul_one _

/-- A finite number divided by a natural number, and rounded to the nearest number. -/
def dividedBy : Binary64 → Nat → Binary64
  | .finite negative m e, d => ofRatio negative (numerator m e) (denominator e * d)
  | x, _ => x

@[simp] theorem dividedBy_zero (negative : Bool) (d : Nat) :
    (zero negative).dividedBy d = zero negative := by
  rw [zero, dividedBy, numerator, scaleUp, Nat.zero_mul, ofRatio, if_pos rfl, zero]

/-- Dividing once more by a power of two is dividing by the product. -/
theorem dividedBy_ofRatio_two_pow {n i j : Nat} (pos : 0 < n) (small : n < 2 ^ 53) (negative : Bool)
    (short : i + j ≤ 970) :
    (ofRatio negative n (2 ^ i)).dividedBy (2 ^ j) = ofRatio negative n (2 ^ (i + j)) := by
  obtain ⟨low, -, bound⟩ := log2_bounds pos small
  obtain ⟨m, hm⟩ : ∃ m, m = n * 2 ^ (52 - n.log2) := ⟨_, rfl⟩
  have lt : m < 2 ^ 53 := hm ▸ significand_lt pos small
  have le : 2 ^ 52 ≤ m := by
    rw [hm]
    calc 2 ^ 52 = 2 ^ n.log2 * 2 ^ (52 - n.log2) := by
          rw [← Nat.pow_add]
          congr 1
          omega
      _ ≤ n * 2 ^ (52 - n.log2) := Nat.mul_le_mul_right _ low
  have log : m.log2 = 52 := (Nat.log2_eq_iff (by omega)).2 ⟨le, lt⟩
  have whole : numerator m ((n.log2 : Int) - i - 52) = m := by
    have up : ((n.log2 : Int) - i - 52).toNat = 0 := by omega
    rw [numerator, scaleUp, up]
    exact Nat.mul_one m
  have below : denominator ((n.log2 : Int) - i - 52) * 2 ^ j = 2 ^ (52 - n.log2 + i + j) := by
    have down : (-((n.log2 : Int) - i - 52)).toNat = 52 - n.log2 + i := by omega
    rw [denominator, down, Nat.pow_add 2 _ j]
    rfl
  rw [ofRatio_two_pow pos small negative (by omega), ofRatio_two_pow pos small negative (by omega),
    ← hm, dividedBy, whole, below, ofRatio_two_pow (by omega) lt negative (by omega), log, Nat.sub_self,
    Nat.pow_zero, Nat.mul_one]
  congr 1
  omega

end StorageMetadata.Binary64
