import StorageMetadata.Proofs.Display.Size

/-!
# Sizes just below the next unit

The unit of a size is chosen before the quotient is rounded.  So the number that is shown, which
`shownSize?` reads off the text, is at least 1 of any unit but the first; but within a twentieth of a
unit below the next power (`JustBelow`) it is rounded up to 1024 and not carried over,

    q < 1024 ↔ ¬JustBelow n   where   shownSize? text = some (q, unit).
-/

namespace StorageMetadata.Display

open StorageMetadata.Text

/-! ### The number that is shown -/

/-- The number that the text of a size shows, and its unit. -/
def shownSize? (text : String) : Option (ℚ × String) :=
  match (splitAll ' ' text.toList).map String.ofList with
  | [number, unit] => match (splitAll '.' number.toList).map String.ofList with
    | [whole] => do return (((← Decimal.read? whole) : ℚ), unit)
    | [whole, tenth] => do return (((← Decimal.read? (whole ++ tenth)) : ℚ) / 10, unit)
    | _ => none
  | _ => none

/-- The characters of a number above zero are digits. -/
theorem notMem_write {c : Char} (h : c.isDigit = false) (n : Nat) :
    c ∉ (Decimal.write (n : Nat)).toList := by
  rw [Decimal.write_natCast, String.toList_ofList]
  intro hc
  have digit : c.isDigit = true := Decimal.isDigit_of_mem_digits hc
  rw [h] at digit
  cases digit

/-- The last digit of a number of several digits, written apart. -/
theorem write_append_write {t : Nat} (ten : 10 ≤ t) :
    Decimal.write (t / 10 : Nat) ++ Decimal.write (t % 10 : Nat) = Decimal.write (t : Nat) := by
  have last : Decimal.digits (t % 10) = [(t % 10).digitChar] := by
    rw [Decimal.digits_eq, if_pos (Nat.mod_lt t (by decide))]
  rw [Decimal.write_natCast, Decimal.write_natCast, Decimal.write_natCast, ← String.toList_inj,
    String.toList_append, String.toList_ofList, String.toList_ofList, String.toList_ofList, last,
    Decimal.digits_eq t, if_neg (by omega)]

theorem fits_of_le {n : Nat} (h : n ≤ 10240) : Decimal.Fits (n : Nat) := by
  rw [Decimal.fits_iff, Int.natAbs_natCast]
  calc n < 10 ^ 5 := by omega
    _ ≤ 10 ^ Decimal.maxDigits := Nat.pow_le_pow_right (by decide) (by decide)

/-- A number and a unit are told apart. -/
theorem splitAll_number {number unit : String} (first : ' ' ∉ number.toList)
    (second : ' ' ∉ unit.toList) :
    (splitAll ' ' (number ++ " " ++ unit).toList).map String.ofList = [number, unit] := by
  have parts : (number ++ " " ++ unit).toList = number.toList ++ ' ' :: unit.toList := by
    simp
  rw [parts, splitAll_append first, splitAll_of_notMem second]
  simp

theorem shownSize?_whole {n : Nat} (small : n ≤ 10240) {unit : String} (h : ' ' ∉ unit.toList) :
    shownSize? (Decimal.write n ++ " " ++ unit) = some ((n : ℚ), unit) := by
  rw [shownSize?, splitAll_number (notMem_write (by decide) n) h]
  dsimp only
  rw [splitAll_of_notMem (notMem_write (by decide) n), List.map_singleton, String.ofList_toList]
  dsimp only
  rw [Decimal.read?_write (fits_of_le small)]
  rfl

theorem shownSize?_tenths {t : Nat} (ten : 10 ≤ t) (small : t ≤ 10240) {unit : String}
    (h : ' ' ∉ unit.toList) :
    shownSize? (tenthsText t ++ " " ++ unit) = some ((t : ℚ) / 10, unit) := by
  have text : tenthsText t =
      Decimal.write (t / 10 : Nat) ++ "." ++ Decimal.write (t % 10 : Nat) := by
    rw [tenthsText, if_neg (by omega), Int.natAbs_natCast, String.empty_append]
  have point : (tenthsText t).toList = (Decimal.write (t / 10 : Nat)).toList ++ '.' ::
      (Decimal.write (t % 10 : Nat)).toList := by
    rw [text]
    simp
  have apart : ' ' ∉ (tenthsText t).toList := by
    rw [point, List.mem_append, List.mem_cons]
    rintro (front | space | back)
    · exact notMem_write (by decide) _ front
    · exact absurd space (by decide)
    · exact notMem_write (by decide) _ back
  rw [shownSize?, splitAll_number apart h]
  dsimp only
  rw [point, splitAll_append (notMem_write (by decide) _),
    splitAll_of_notMem (notMem_write (by decide) _), List.map_cons, List.map_singleton,
    String.ofList_toList, String.ofList_toList]
  dsimp only
  rw [write_append_write ten, Decimal.read?_write (fits_of_le small)]
  rfl

/-! ### Just below the next unit -/

/-- Is a size less than the next power of 1024, but by no more than a twentieth of its own unit? -/
def JustBelow (n : Int) : Prop :=
  ∃ k, 0 < k ∧ k < lastUnit ∧ n < 1024 ^ (k + 1) ∧ 20 * (1024 ^ (k + 1) - n) ≤ 1024 ^ k

theorem Reaches.unique {magnitude j k : Nat} (h : Reaches magnitude j) (h' : Reaches magnitude k) :
    j = k := by
  have no : ∀ {i l : Nat}, Reaches magnitude i → Reaches magnitude l → ¬i < l := by
    intro i l first second less
    have reached := second.pow_le (Nat.succ_pos i) less
    have last := first.last (Nat.lt_of_lt_of_le less second.le)
    omega
  have := no h h'
  have := no h' h
  omega

/-- The unit below whose successor a size may be is its own. -/
theorem justBelow_iff {m k : Nat} (h : Reaches m k) :
    JustBelow m ↔ 0 < k ∧ k < lastUnit ∧ 20 * 1024 ^ (k + 1) ≤ 20 * m + 1024 ^ k := by
  constructor
  · rintro ⟨j, pos, more, below, near⟩
    have power : (1024 : Nat) ^ (j + 1) = 1024 * 1024 ^ j := Nat.pow_succ'
    have below' : m < 1024 ^ (j + 1) := by exact_mod_cast below
    have near' : 20 * 1024 ^ (j + 1) ≤ 20 * m + 1024 ^ j := by
      have : (20 : Int) * 1024 ^ (j + 1) ≤ 20 * m + 1024 ^ j := by linarith
      exact_mod_cast this
    have reached : Reaches m j := ⟨more.le, fun _ => by omega, fun _ => below'⟩
    obtain rfl := reached.unique h
    exact ⟨pos, more, near'⟩
  · rintro ⟨pos, more, near⟩
    refine ⟨k, pos, more, by exact_mod_cast h.last more, ?_⟩
    have : (20 : Int) * 1024 ^ (k + 1) ≤ 20 * m + 1024 ^ k := by exact_mod_cast near
    linarith

/-- The tenths that are shown come to 1024 units exactly just below the next unit. -/
theorem tenths_lt_iff {m k : Nat} (small : m < 2 ^ 53) (h : Reaches m k) (larger : 0 < k) :
    roundHalfEven (10 * m) (1024 ^ k) < 10240 ↔ ¬JustBelow m := by
  have power : (1024 : Nat) ^ (k + 1) = 1024 * 1024 ^ k := Nat.pow_succ'
  have halfway : 10240 ≤ roundHalfEven (10 * m) (1024 ^ k) ↔
      20 * 1024 ^ (k + 1) ≤ 20 * m + 1024 ^ k := by
    rw [even_le_roundHalfEven_iff (Nat.pow_pos (by decide)) (by decide)]
    omega
  rw [← Nat.not_le, not_iff_not, halfway, justBelow_iff h]
  constructor
  · intro near
    refine ⟨larger, ?_, near⟩
    by_contra last
    have : k = 5 := Nat.le_antisymm h.le (Nat.not_lt.1 last)
    subst this
    omega
  · exact fun near => near.2.2

/-! ### What is shown -/

theorem space_notMem_units : ∀ unit ∈ units, ' ' ∉ unit.toList := by decide

theorem getD_units_mem {k : Nat} (h : k ≤ lastUnit) : units.getD k "" ∈ units := by
  have table : ∀ k : Fin 6, units.getD k.val "" ∈ units := by decide
  exact table ⟨k, Nat.lt_succ_of_le h⟩

/-- A size of one unit or more is shown in tenths of it, from 10 of them up to 10240. -/
theorem sizeText_larger {m k : Nat} (small : m < 2 ^ 53) (h : Reaches m k) (larger : 0 < k) :
    ∃ t : Nat, t = roundHalfEven (10 * m) (1024 ^ k) ∧ 10 ≤ t ∧ t ≤ 10240 ∧
      sizeText (.int m) = .ok (tenthsText t ++ " " ++ units.getD k "") := by
  have text := @sizeText_int m k (by rwa [Int.natAbs_natCast]) (by rwa [Int.natAbs_natCast])
  rw [if_neg larger.ne', tenths, decide_eq_false (by omega), Int.natAbs_natCast, Binary64.signed,
    if_neg Bool.false_ne_true] at text
  refine ⟨_, rfl, h.ten_le larger, ?_, text⟩
  apply roundHalfEven_le (Nat.pow_pos (by decide))
  have below : m < 1024 ^ (k + 1) := by
    by_cases last : k < lastUnit
    · exact h.last last
    · obtain rfl : k = 5 := Nat.le_antisymm h.le (Nat.not_lt.1 last)
      omega
  have power : (1024 : Nat) ^ (k + 1) = 1024 * 1024 ^ k := Nat.pow_succ'
  omega

/-- **The number shown is carried over unless the size is just below the next unit.**  It is at least
1 of every unit but the first, and it is less than 1024 with one exception: just below the next unit
it is 1024. -/
theorem sizeText_carried {n : Int} (nonneg : 0 ≤ n) (small : n < 2 ^ 53) :
    ∃ text q unit, sizeText (.int n) = .ok text ∧ shownSize? text = some (q, unit) ∧
      unit ∈ units ∧ (unit ≠ "B" → 1 ≤ q) ∧ (q < 1024 ↔ ¬JustBelow n) ∧
      (JustBelow n → q = 1024) := by
  obtain ⟨m, rfl⟩ := Int.eq_ofNat_of_zero_le nonneg
  have few : m < 2 ^ 53 := by omega
  obtain ⟨k, h⟩ := exists_reaches m
  have known := getD_units_mem h.le
  rcases Nat.eq_zero_or_pos k with rfl | larger
  · have below : m < 1024 := h.last (by decide)
    have text := @sizeText_int m 0 (by rwa [Int.natAbs_natCast]) (by rwa [Int.natAbs_natCast])
    have space : " B" = " " ++ "B" := by decide
    rw [if_pos rfl, space, ← String.append_assoc] at text
    have apart : ¬JustBelow m := fun near => absurd ((justBelow_iff h).1 near).1 (Nat.lt_irrefl 0)
    refine ⟨_, m, "B", text, ?_, by decide, absurd rfl, ?_, fun near => absurd near apart⟩
    · exact shownSize?_whole (by omega) (by decide)
    · exact iff_of_true (by exact_mod_cast below) apart
  · obtain ⟨t, rounded, ten, most, text⟩ := sizeText_larger few h larger
    have carried : t < 10240 ↔ ¬JustBelow m := rounded ▸ tenths_lt_iff few h larger
    have less : (t : ℚ) / 10 < 1024 ↔ t < 10240 := by
      rw [div_lt_iff₀ (by norm_num)]
      norm_num
    refine ⟨_, t / 10, _, text, shownSize?_tenths ten most (space_notMem_units _ known), known, ?_,
      less.trans carried, ?_⟩
    · intro _
      rw [le_div_iff₀ (by norm_num), one_mul]
      exact_mod_cast ten
    · intro near
      have full : t = 10240 := by
        by_contra other
        exact carried.1 (by omega) near
      rw [full]
      norm_num

theorem shownSize?_full : shownSize? "1024.0 KiB" = some (1024, "KiB") := by
  have read := @shownSize?_tenths 10240 (by decide) (by decide) "KiB" (by decide)
  have text : tenthsText (10240 : Nat) ++ " " ++ "KiB" = "1024.0 KiB" := by decide
  rw [text] at read
  rw [read]
  norm_num

/-- The greatest size that is less than a mebibyte in what is shown, and the next one. -/
theorem sizeText_below_mebibyte :
    (∃ text q unit, sizeText (.int 1048524) = .ok text ∧ shownSize? text = some (q, unit) ∧
      q < 1024) ∧
    ∃ text q unit, sizeText (.int 1048525) = .ok text ∧ shownSize? text = some (q, unit) ∧
      q = 1024 := by
  have apart : ¬JustBelow (1048524 : Nat) := by
    have reached : Reaches 1048524 1 := ⟨by decide, by decide, by decide⟩
    rw [justBelow_iff reached]
    decide
  have near : JustBelow 1048525 := ⟨1, by decide, by decide, by decide, by decide⟩
  obtain ⟨text, q, unit, shows, read, -, -, less, -⟩ :=
    @sizeText_carried 1048524 (by decide) (by decide)
  obtain ⟨text', q', unit', shows', read', -, -, -, full⟩ :=
    @sizeText_carried 1048525 (by decide) (by decide)
  exact ⟨⟨text, q, unit, shows, read, less.2 apart⟩, text', q', unit', shows', read', full near⟩

/-- **Not every number shown is carried over.** -/
theorem sizeText_uncarried :
    ¬∀ n : Int, 0 ≤ n → n < 2 ^ 53 → ∀ text q unit, sizeText (.int n) = .ok text →
      shownSize? text = some (q, unit) →
        (unit ∈ ["B", "KiB", "MiB", "GiB", "TiB"] → q < 1024) ∧ (unit ≠ "B" → 1 ≤ q) := by
  intro carried
  have text : sizeText (.int 1048575) = .ok "1024.0 KiB" := by rfl
  have less := (carried 1048575 (by decide) (by decide) _ _ _ text shownSize?_full).1 (by decide)
  exact absurd less (by norm_num)

end StorageMetadata.Display
