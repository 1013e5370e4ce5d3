/-!
# Rounding to the nearest integer

`roundHalfEven num den` is the integer nearest to `num / den`, the even one of two that are equally
near.
-/

namespace StorageMetadata

/-- The integer nearest to `num / den`; a tie goes to the even neighbour. -/
def roundHalfEven (num den : Nat) : Nat :=
  let q := num / den
  let twice := 2 * (num % den)
  if den < twice ∨ twice = den ∧ q % 2 = 1 then q + 1 else q

/-- A multiple of the denominator is divided exactly. -/
theorem roundHalfEven_mul {den : Nat} (h : 0 < den) (n : Nat) :
    roundHalfEven (n * den) den = n := by
  unfold roundHalfEven
  simp only [Nat.mul_mod_left, Nat.mul_div_cancel n h]
  rw [if_neg (by omega)]

/-- The rounded quotient is no farther from the quotient than half a unit. -/
theorem roundHalfEven_near {num den : Nat} (h : 0 < den) :
    2 * (roundHalfEven num den * den) ≤ 2 * num + den ∧
      2 * num ≤ 2 * (roundHalfEven num den * den) + den := by
  have hdiv := Nat.div_add_mod num den
  have hlt := Nat.mod_lt num h
  unfold roundHalfEven
  simp only
  split
  · rw [Nat.add_mul, Nat.mul_comm (num / den)]; omega
  · rw [Nat.mul_comm (num / den)]; omega

/-- The integer nearest to the signed quotient `num / den`; a tie goes to the even neighbour. -/
def roundHalfEvenInt (num : Int) (den : Nat) : Int :=
  if num < 0 then -(roundHalfEven num.natAbs den : Int) else roundHalfEven num.natAbs den

end StorageMetadata
