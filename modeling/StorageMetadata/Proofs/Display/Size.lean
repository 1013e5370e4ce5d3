import Mathlib.Algebra.Order.Group.Unbundled.Int
import Mathlib.Data.Nat.Find
import Mathlib.Order.Bounds.Basic
import StorageMetadata.Display.Size
import StorageMetadata.Proofs.Number.Binary64
import StorageMetadata.Proofs.Number.Decimal
import StorageMetadata.Proofs.Number.Rounding

/-!
# Sizes are shown exactly

A size of fewer than 53 binary digits is a number of 64 bits, and so is every quotient on the way
to its unit.  `scaled` divides by 1024 as long as it may, and it ends with the unit of the largest
power of 1024 that the size reaches (`Reaches`); nothing is lost there, and what is shown is the exact
quotient, rounded once,

    sizeText (.int n) = .ok (tenthsText t ++ " " ++ unit)

where `IsNearest (10 * (n / 1024 ^ k)) t`.

So what is shown is no farther from the size than a twentieth of the unit.
-/

namespace StorageMetadata.Display

/-! ### One decimal place -/

/-- So many tenths, with a point before the last digit. -/
def tenthsText (t : Int) : String :=
  (if t < 0 then "-" else "") ++ Decimal.write (t.natAbs / 10 : Nat) ++ "." ++
    Decimal.write (t.natAbs % 10 : Nat)

theorem tenthsText_natCast (t : Nat) :
    tenthsText t = String.ofList (Decimal.digits (t / 10) ++ ['.', Text.digitChar (t % 10)]) := by
  rw [tenthsText, if_neg (by omega), Int.natAbs_natCast, Decimal.write_natCast,
    Decimal.write_digit (Nat.mod_lt t (by decide)), ← String.toList_inj]
  simp

/-- A sign in front. -/
theorem tenthsText_neg {t : Nat} (pos : 0 < t) : tenthsText (-t) = "-" ++ tenthsText t := by
  rw [tenthsText, tenthsText, if_pos (by omega), if_neg (by omega), Int.natAbs_neg,
    String.empty_append, String.append_assoc, String.append_assoc, String.append_assoc]

/-! ### The unit -/

/-- Is `k` the number of the unit for a size of this magnitude: the largest power of 1024, up to the
last unit's, that the magnitude reaches? -/
structure Reaches (magnitude k : Nat) : Prop where
  le : k ≤ lastUnit
  reached : 0 < k → 1024 ^ k ≤ magnitude
  last : k < lastUnit → magnitude < 1024 ^ (k + 1)

theorem exists_reaches (magnitude : Nat) : ∃ k, Reaches magnitude k := by
  obtain ⟨k, hk⟩ : ∃ k, Nat.findGreatest (fun k => 1024 ^ k ≤ magnitude) lastUnit = k := ⟨_, rfl⟩
  refine ⟨k, hk ▸ Nat.findGreatest_le _, ?_, ?_⟩
  · intro pos
    exact Nat.findGreatest_of_ne_zero (P := fun k => 1024 ^ k ≤ magnitude) hk pos.ne'
  · intro more
    have next : Nat.findGreatest (fun k => 1024 ^ k ≤ magnitude) lastUnit < k + 1 := by omega
    exact Nat.not_le.1
      (Nat.findGreatest_is_greatest (P := fun k => 1024 ^ k ≤ magnitude) next more)

theorem Reaches.pow_le {magnitude k j : Nat} (h : Reaches magnitude k) (pos : 0 < j) (le : j ≤ k) :
    1024 ^ j ≤ magnitude :=
  (Nat.pow_le_pow_right (by decide) le).trans (h.reached (by omega))

/-- The powers that are reached are counted one after another. -/
theorem unitOf_of_reaches {magnitude k den : Nat} (h : Reaches magnitude k) (pos : 0 < den) :
    unitOf (magnitude * den) den = k := by
  obtain ⟨rest, hrest⟩ : ∃ rest, lastUnit = k + rest := ⟨lastUnit - k, by have := h.le; omega⟩
  have reached : ∀ j ∈ List.range k,
      decide (Nat.pow 1024 (j + 1) * den ≤ magnitude * den) = true := by
    intro j hj
    have le : j + 1 ≤ k := List.mem_range.1 hj
    exact decide_eq_true (Nat.mul_le_mul_right den (h.pow_le (Nat.succ_pos j) le))
  have stops : ((List.range rest).map (k + ·)).takeWhile
      (fun j => decide (Nat.pow 1024 (j + 1) * den ≤ magnitude * den)) = [] := by
    cases rest with
    | zero => rfl
    | succ rest =>
      have beyond : magnitude < 1024 ^ (k + 1) := h.last (by omega)
      rw [List.range_succ_eq_map, List.map_cons, List.takeWhile_cons, if_neg]
      simp only [Nat.add_zero, decide_eq_true_eq, Nat.not_le]
      exact Nat.mul_lt_mul_of_pos_right beyond pos
  rw [unitOf, hrest, List.range_add, List.takeWhile_append_of_pos reached, stops, List.append_nil,
    List.length_range]

/-- The numbers that `Reaches` speaks of are the greatest ones. -/
theorem Reaches.isGreatest {n : Int} {k : Nat} (h : Reaches n.natAbs k) (pos : 0 < k) :
    IsGreatest {k : Nat | 1 ≤ k ∧ k ≤ 5 ∧ 1024 ^ k ≤ |n|} k := by
  have power : ∀ j : Nat, (1024 : Int) ^ j ≤ |n| ↔ 1024 ^ j ≤ n.natAbs := by
    intro j
    rw [Int.abs_eq_natAbs]
    exact_mod_cast Iff.rfl
  refine ⟨⟨pos, h.le, (power k).2 (h.reached pos)⟩, ?_⟩
  rintro j ⟨-, le, reached⟩
  by_contra more
  have beyond : n.natAbs < 1024 ^ (k + 1) := h.last (by simp only [lastUnit]; omega)
  have higher : 1024 ^ (k + 1) ≤ 1024 ^ j := Nat.pow_le_pow_right (by decide) (by omega)
  have := (power j).1 reached
  omega

/-! ### Divisions -/

/-- One division. -/
def shrink (x : Binary64) : Binary64 := x.dividedBy 1024

/-- What is left of a number when it has been divided by 1024 as long as it may, and its unit then. -/
def scaled (x : Binary64) : List String → Binary64 × String
  | [] => (x, "")
  | [unit] => (x, unit)
  | unit :: next :: rest =>
    if x.gtInt (-1024) && x.ltInt 1024 then (x, unit) else scaled (shrink x) (next :: rest)

theorem below_iff {x : Binary64} {q : ℚ} (value : x.rational? = some q) :
    (x.gtInt (-1024) && x.ltInt 1024) = true ↔ |q| < 1024 := by
  rw [Bool.and_eq_true, Binary64.gtInt_iff value, Binary64.ltInt_iff value, abs_lt]
  exact_mod_cast Iff.rfl

/-- **The divisions stop at the unit.**  If they are exact, there are as many of them as there are
powers that the number reaches. -/
theorem scaled_eq {units : List String} {x : Binary64} {q : ℚ} {i : Nat}
    (exactly : ∀ j < units.length, (shrink^[j] x).rational? = some (q / 1024 ^ j))
    (within : i < units.length) (reached : 0 < i → 1024 ^ i ≤ |q|)
    (last : i + 1 < units.length → |q| < 1024 ^ (i + 1)) :
    scaled x units = (shrink^[i] x, units.getD i "") := by
  induction units generalizing x q i with
  | nil => exact absurd within (Nat.not_lt_zero i)
  | cons unit units ih =>
    have value : x.rational? = some q := by
      have := exactly 0 (Nat.succ_pos _)
      rwa [Function.iterate_zero_apply, pow_zero, div_one] at this
    cases units with
    | nil =>
      obtain rfl : i = 0 := by simpa using within
      rfl
    | cons next rest =>
      rw [scaled]
      cases i with
      | zero =>
        have below : |q| < 1024 := by
          have := last (by simp)
          rwa [zero_add, pow_one] at this
        rw [if_pos ((below_iff value).2 below)]
        rfl
      | succ i =>
        have smaller : |q / 1024| = |q| / 1024 := by
          rw [abs_div, abs_of_pos (show (0 : ℚ) < 1024 by norm_num)]
        have more : ¬|q| < 1024 := by
          rw [not_lt]
          calc (1024 : ℚ) = 1024 ^ 1 := (pow_one _).symm
            _ ≤ 1024 ^ (i + 1) := pow_le_pow_right₀ (by norm_num) (by omega)
            _ ≤ |q| := reached (Nat.succ_pos i)
        rw [if_neg (mt (below_iff value).1 more)]
        apply ih (q := q / 1024)
        · intro j hj
          have next := exactly (j + 1) (Nat.succ_lt_succ hj)
          rwa [Function.iterate_succ_apply, pow_succ', ← div_div] at next
        · exact Nat.lt_of_succ_lt_succ within
        · intro _
          rw [smaller, le_div_iff₀ (by norm_num), ← pow_succ]
          exact reached (Nat.succ_pos i)
        · intro hi
          rw [smaller, div_lt_iff₀ (by norm_num), ← pow_succ]
          exact last (Nat.succ_lt_succ hi)

section

variable {n : Int} (small : n.natAbs < 2 ^ 53)
include small

/-- The quotients of a size of few digits. -/
theorem shrink_ofInt {j : Nat} (nonzero : n ≠ 0) (short : j ≤ 97) :
    shrink^[j] (Binary64.ofInt n) =
      Binary64.ofRatio (decide (n < 0)) n.natAbs (2 ^ (10 * j)) := by
  induction j with
  | zero => rfl
  | succ j ih =>
    rw [Function.iterate_succ_apply', ih (by omega), shrink]
    exact Binary64.dividedBy_ofRatio_two_pow (j := 10) (Int.natAbs_pos.2 nonzero) small _ (by omega)

/-- **Every quotient on the way is exact.** -/
theorem rational?_shrink_ofInt {j : Nat} (short : j ≤ 97) :
    (shrink^[j] (Binary64.ofInt n)).rational? = some ((n : ℚ) / 1024 ^ j) := by
  by_cases zero : n = 0
  · subst zero
    have fixed : shrink (Binary64.zero false) = Binary64.zero false :=
      Binary64.dividedBy_zero false 1024
    have start : Binary64.ofInt 0 = Binary64.zero false := rfl
    rw [start, Function.iterate_fixed fixed, Binary64.rational?_zero, Int.cast_zero, zero_div]
  · have power : (1024 : ℚ) ^ j = 2 ^ (10 * j) := by
      rw [pow_mul]
      norm_num
    have pos : 0 < n.natAbs := Int.natAbs_pos.2 zero
    rw [shrink_ofInt small zero short, Binary64.rational?_ofRatio_two_pow pos small _ (by omega),
      power, ← Binary64.cast_signed, Binary64.signed_natAbs]

/-- A size of few digits ends with the unit of the largest power that it reaches. -/
theorem scaled_ofInt {k : Nat} (h : Reaches n.natAbs k) :
    scaled (Binary64.ofInt n) units = (shrink^[k] (Binary64.ofInt n), units.getD k "") := by
  have size : |(n : ℚ)| = n.natAbs := by rw [Nat.cast_natAbs, Int.cast_abs]
  apply scaled_eq (q := n)
  · intro j hj
    exact rational?_shrink_ofInt small (hj.le.trans (by decide))
  · exact Nat.lt_succ_of_le h.le
  · intro pos
    rw [size]
    exact_mod_cast h.reached pos
  · intro more
    rw [size]
    exact_mod_cast h.last (Nat.lt_of_succ_lt_succ more)

end

/-! ### The text of a size -/

/-- A number of tenths with its sign. -/
theorem tenthsText_signed (negative : Bool) {t : Nat} (pos : 0 < t) :
    tenthsText (Binary64.signed negative t) =
      String.ofList (if negative then '-' :: (Decimal.digits (t / 10) ++
        ['.', Text.digitChar (t % 10)]) else Decimal.digits (t / 10) ++
        ['.', Text.digitChar (t % 10)]) := by
  cases negative
  · exact tenthsText_natCast t
  · rw [Binary64.signed, if_pos rfl, if_pos rfl, tenthsText_neg pos, tenthsText_natCast,
      ← String.toList_inj, String.toList_append, String.toList_ofList, String.toList_ofList]
    exact String.toList_ofList.symm

/-- A size that reaches its unit is shown with ten tenths of it or more. -/
theorem Reaches.ten_le {magnitude k : Nat} (h : Reaches magnitude k) (larger : 0 < k) :
    10 ≤ roundHalfEven (10 * magnitude) (1024 ^ k) := by
  apply le_roundHalfEven (Nat.pow_pos (by decide))
  exact Nat.mul_le_mul_left 10 (h.reached larger)

/-- The tenths of its unit that a size is shown with. -/
def tenths (n : Int) (k : Nat) : Int :=
  Binary64.signed (decide (n < 0)) (roundHalfEven (10 * n.natAbs) (1024 ^ k))

/-- **The text of a size of few digits.** -/
theorem sizeText_int {n : Int} {k : Nat} (small : n.natAbs < 2 ^ 53) (h : Reaches n.natAbs k) :
    sizeText (.int n) = .ok (if k = 0 then Decimal.write n ++ " B"
      else tenthsText (tenths n k) ++ " " ++ units.getD k "") := by
  obtain ⟨m, e, finite, value⟩ := Binary64.exists_ofInt small
  have read : sizeNumber (.int n) = .ok (.finite (decide (n < 0)) m e) := by
    simp only [sizeNumber, Value.toInt?, finite]
  have shown : (Value.int n).display = Decimal.write n := rfl
  have text : sizeText (.int n) =
      .ok (numberText (Decimal.write n) (.finite (decide (n < 0)) m e)) := by
    rw [sizeText, if_neg Value.noConfusion, read, shown]
    rfl
  have den := Binary64.denominator_pos e
  have unit := unitOf_of_reaches h den
  rw [text, numberText, value]
  simp only [unit]
  cases k with
  | zero => rfl
  | succ k =>
    have rounded : roundHalfEven (10 * (n.natAbs * Binary64.denominator e))
        (Binary64.denominator e * Nat.pow 1024 (k + 1)) =
          roundHalfEven (10 * n.natAbs) (1024 ^ (k + 1)) := by
      rw [← roundHalfEven_mul_left den (10 * n.natAbs), ← Nat.mul_assoc,
        Nat.mul_comm (Binary64.denominator e) (10 * n.natAbs)]
      rfl
    have ten := h.ten_le (Nat.succ_pos k)
    rw [if_neg (Nat.succ_ne_zero k), tenths, tenthsText_signed _ (by omega)]
    simp only [oneDecimal, rounded]

theorem isNearest_tenths (n : Int) (k : Nat) :
    IsNearest (10 * ((n : ℚ) / 1024 ^ k)) (tenths n k) := by
  have nearest := @isNearest_roundHalfEven (10 * n.natAbs) (1024 ^ k) (Nat.pow_pos (by decide))
  rw [Nat.cast_mul, Nat.cast_natAbs, mul_div_assoc] at nearest
  push_cast at nearest
  unfold tenths
  by_cases negative : n < 0
  · rw [decide_eq_true negative, Binary64.signed, if_pos rfl]
    have turned : 10 * ((n : ℚ) / 1024 ^ k) = -(10 * (|(n : ℚ)| / 1024 ^ k)) := by
      rw [abs_of_neg (by exact_mod_cast negative)]
      ring
    rw [turned]
    exact nearest.neg
  · rw [decide_eq_false negative, Binary64.signed, if_neg Bool.false_ne_true]
    have same : |(n : ℚ)| = n := abs_of_nonneg (by exact_mod_cast Int.not_lt.1 negative)
    rwa [same] at nearest

theorem tenths_neg {n : Int} (pos : 0 < n) (k : Nat) : tenths (-n) k = -tenths n k := by
  rw [tenths, tenths, decide_eq_true (by omega : -n < 0), decide_eq_false (by omega : ¬n < 0),
    Int.natAbs_neg]
  rfl

theorem tenths_pos {n : Int} {k : Nat} (pos : 0 < n) (h : Reaches n.natAbs k) (larger : 0 < k) :
    ∃ t : Nat, 0 < t ∧ tenths n k = t := by
  refine ⟨_, Nat.lt_of_lt_of_le (by decide) (h.ten_le larger), ?_⟩
  rw [tenths, decide_eq_false (by omega : ¬n < 0), Binary64.signed, if_neg Bool.false_ne_true]

/-- A size below zero is shown as the positive one with a sign in front. -/
theorem sizeText_neg {n : Int} (small : n.natAbs < 2 ^ 53) (pos : 0 < n) :
    ∃ s, sizeText (.int n) = .ok s ∧ sizeText (.int (-n)) = .ok ("-" ++ s) := by
  obtain ⟨k, h⟩ := exists_reaches n.natAbs
  have opposite := sizeText_int (n := -n) (by rwa [Int.natAbs_neg]) (by rwa [Int.natAbs_neg])
  refine ⟨_, sizeText_int small h, ?_⟩
  rw [opposite]
  by_cases whole : k = 0
  · rw [if_pos whole, if_pos whole, Decimal.write_neg pos, String.append_assoc]
  · obtain ⟨t, positive, shown⟩ := tenths_pos pos h (Nat.pos_of_ne_zero whole)
    rw [if_neg whole, if_neg whole, tenths_neg pos, shown, tenthsText_neg positive,
      String.append_assoc, String.append_assoc, String.append_assoc]

/-- **A size of fewer than 53 binary digits is shown exactly.**  The divisions lose nothing and end
with the unit of the largest power reached, and the one rounding is to the nearest tenth of it. -/
theorem sizeText_exact {n : Int} (small : |n| < 2 ^ 53) :
    (∀ j ≤ 5, (shrink^[j] (Binary64.ofInt n)).rational? = some ((n : ℚ) / 1024 ^ j)) ∧
      (|n| < 1024 → scaled (Binary64.ofInt n) units = (Binary64.ofInt n, "B") ∧
        sizeText (.int n) = .ok (Decimal.write n ++ " B")) ∧
      (1024 ≤ |n| → ∃ (k : Nat) (unit : String) (t : Int),
        IsGreatest {k : Nat | 1 ≤ k ∧ k ≤ 5 ∧ 1024 ^ k ≤ |n|} k ∧
          ["KiB", "MiB", "GiB", "TiB", "PiB"][k - 1]? = some unit ∧
          scaled (Binary64.ofInt n) units = (shrink^[k] (Binary64.ofInt n), unit) ∧
          IsNearest (10 * ((n : ℚ) / 1024 ^ k)) t ∧
          sizeText (.int n) = .ok (tenthsText t ++ " " ++ unit) ∧
          |(t : ℚ) / 10 * 1024 ^ k - n| ≤ 1024 ^ k / 20) ∧
      (0 < n → ∃ s, sizeText (.int n) = .ok s ∧ sizeText (.int (-n)) = .ok ("-" ++ s)) := by
  rw [Int.abs_eq_natAbs] at small
  have few : n.natAbs < 2 ^ 53 := by omega
  obtain ⟨k, h⟩ := exists_reaches n.natAbs
  have loop := scaled_ofInt few h
  have text := sizeText_int few h
  refine ⟨fun j hj => rational?_shrink_ofInt few (by omega), ?_, ?_, sizeText_neg few⟩
  · intro below
    rw [Int.abs_eq_natAbs] at below
    have first : k = 0 := by
      by_contra more
      have := h.pow_le (j := 1) Nat.one_pos (by omega)
      omega
    subst first
    exact ⟨loop, text⟩
  · intro reached
    have larger : 0 < k := by
      by_contra first
      have := h.last (by simp only [lastUnit]; omega)
      rw [Int.abs_eq_natAbs] at reached
      obtain rfl : k = 0 := by omega
      omega
    have named : ∀ k : Fin 5, ["KiB", "MiB", "GiB", "TiB", "PiB"][k.val]? =
        some (units.getD (k.val + 1) "") := by decide
    have unit := named ⟨k - 1, by have := h.le; simp only [lastUnit] at this; omega⟩
    have nearest := isNearest_tenths n k
    simp only [Nat.sub_add_cancel larger] at unit
    rw [if_neg larger.ne'] at text
    exact ⟨k, _, _, h.isGreatest larger, unit, loop, nearest, text, nearest.within (by positivity)⟩

/-- Half a tenth goes to the even side, above zero and below. -/
theorem sizeText_half_tenth :
    |(1280 : Int)| < 2 ^ 53 ∧ sizeText (.int 1280) = .ok "1.2 KiB" ∧
      sizeText (.int (-1280)) = .ok "-1.2 KiB" := by
  have small : |(1280 : Int)| < 2 ^ 53 := by decide
  obtain ⟨s, first, second⟩ := (sizeText_exact small).2.2.2 (by decide)
  have shown : sizeText (.int 1280) = .ok "1.2 KiB" := by rfl
  rw [shown] at first
  cases first
  exact ⟨small, shown, second⟩

end StorageMetadata.Display
