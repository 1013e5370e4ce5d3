import Mathlib.Algebra.GroupWithZero.Nat
import Mathlib.Data.List.Induction
import StorageMetadata.Number.Decimal

/-!
# Integers are read back

An integer that was written in decimal is read as that integer,

    read? (write n) = some n,

as long as it `Fits`: no more than `maxDigits` digits are ever read.  Conversely, whatever is read
fits.  Both directions go through the digits' values: the digits of `n` have values whose
`digitsValue` is `n`, and a run of `k` digits has a value below `10 ^ k`.
-/

namespace StorageMetadata.Decimal

open StorageMetadata.Text

/-- Has the integer no more digits than are read? -/
def Fits (n : Int) : Prop := (digits n.natAbs).length ≤ maxDigits

instance (n : Int) : Decidable (Fits n) := by unfold Fits; infer_instance

theorem fits_iff {n : Int} : Fits n ↔ n.natAbs < 10 ^ maxDigits :=
  Nat.length_toDigits_le_iff (by decide) (by decide)

/-! ### The digits of a number -/

theorem digitsValue_append (ds : List Nat) (d : Nat) :
    digitsValue (ds ++ [d]) = 10 * digitsValue ds + d := by
  simp [digitsValue, List.foldl_append]

theorem digit?_toDigit : ∀ d : Fin 10, digit? d.val.digitChar = some d.val := by
  decide

/-- The digits of a number have values, and those make up the number. -/
theorem exists_digits (n : Nat) :
    ∃ ds, (digits n).map digit? = ds.map some ∧ digitsValue ds = n := by
  induction n using Nat.strongRecOn with
  | ind n ih =>
    rw [digits_eq]
    by_cases small : n < 10
    · rw [if_pos small]
      exact ⟨[n], by simpa using digit?_toDigit ⟨n, small⟩, by simp [digitsValue]⟩
    · obtain ⟨ds, hds, hn⟩ := ih (n / 10) (by omega)
      rw [if_neg small]
      refine ⟨ds ++ [n % 10], ?_, ?_⟩
      · have last := digit?_toDigit ⟨n % 10, Nat.mod_lt n (by decide)⟩
        simp only [List.map_append, hds, List.map_cons, List.map_nil, last]
      · rw [digitsValue_append, hn]
        omega

theorem digits_ne_nil (n : Nat) : digits n ≠ [] := Nat.toDigits_ne_nil

/-- A run of digits stands for less than the power of ten with that many zeros. -/
theorem digitsValue_lt {ds : List Nat} (h : ∀ d ∈ ds, d < 10) :
    digitsValue ds < 10 ^ ds.length := by
  induction ds using List.reverseRecOn with
  | nil => simp [digitsValue]
  | append_singleton ds d ih =>
    have front := ih fun x hx => h x (List.mem_append_left _ hx)
    have last := h d (by simp)
    rw [digitsValue_append, List.length_append, List.length_singleton, Nat.pow_succ]
    omega

/-! ### Reading a run of digits -/

theorem grouped?_of_digits : ∀ {cs : List Char} {ds : List Nat}, cs.map digit? = ds.map some →
    cs ≠ [] → grouped? cs = some ds := by
  intro cs
  induction cs with
  | nil => intro ds _ hne; exact absurd rfl hne
  | cons c rest ih =>
    intro ds h _
    cases ds with
    | nil => cases h
    | cons d ds =>
      simp only [List.map_cons, List.cons.injEq] at h
      obtain ⟨hc, hrest⟩ := h
      cases rest with
      | nil =>
        cases ds with
        | nil => simp [grouped?, hc]
        | cons d' ds => cases hrest
      | cons c' rest =>
        have bar : c' ≠ '_' := by
          rintro rfl
          cases ds with
          | nil => cases hrest
          | cons d' ds =>
            have none : digit? '_' = none := by decide
            rw [List.map_cons, List.map_cons, none] at hrest
            cases (List.cons.inj hrest).1
        rw [grouped?.eq_4 _ _ _ bar, hc, ih hrest (by simp)]
        rfl

/-- What is read from a run of digits are values below ten. -/
theorem lt_of_mem_grouped? {cs : List Char} {ds : List Nat} (h : grouped? cs = some ds) :
    ∀ d ∈ ds, d < 10 := by
  fun_induction grouped? cs generalizing ds with
  | case1 => cases h
  | case2 c =>
    obtain ⟨d, hd, rfl⟩ := Option.map_eq_some_iff.1 h
    simpa using digit?_lt hd
  | case3 c rest ih =>
    simp only [Option.bind_eq_bind, Option.bind_eq_some_iff, Option.pure_def,
      Option.some.injEq] at h
    obtain ⟨d, hd, tail, htail, rfl⟩ := h
    exact List.forall_mem_cons.2 ⟨digit?_lt hd, ih htail⟩
  | case4 c c' rest _ ih =>
    simp only [Option.bind_eq_bind, Option.bind_eq_some_iff, Option.pure_def,
      Option.some.injEq] at h
    obtain ⟨d, hd, tail, htail, rfl⟩ := h
    exact List.forall_mem_cons.2 ⟨digit?_lt hd, ih htail⟩

/-! ### Reading a number -/

theorem digit?_eq_none_of_isBlank {c : Char} (h : isBlank c = true) : digit? c = none := by
  have table : ∀ n ∈ [9, 10, 11, 12, 13, 32] ++ wideBlanks,
      digitZeros.find? (inDecade n) = none := by
    decide
  have listed : c.toNat ∈ [9, 10, 11, 12, 13, 32] ++ wideBlanks := by
    simp only [isBlank, Bool.or_eq_true, decide_eq_true_eq, List.contains_iff_mem] at h
    rcases h with h | h
    · refine List.mem_append_left _ ?_
      simp only [List.mem_cons, List.not_mem_nil, or_false]
      omega
    · exact List.mem_append_right _ h
  rw [digit?, table _ listed]
  rfl

/-- The digits of a number have no blank around them. -/
theorem isBlank_of_mem_digits {n : Nat} {c : Char} (h : c ∈ digits n) : isBlank c = false := by
  obtain ⟨ds, hds, -⟩ := exists_digits n
  have : digit? c ∈ ds.map some := hds ▸ List.mem_map_of_mem h
  obtain ⟨d, -, hd⟩ := List.mem_map.1 this
  cases hb : isBlank c with
  | false => rfl
  | true =>
    rw [digit?_eq_none_of_isBlank hb] at hd
    cases hd

theorem isDigit_of_mem_digits {n : Nat} {c : Char} (h : c ∈ digits n) : c.isDigit = true :=
  Nat.isDigit_of_mem_toDigits (by decide) (by decide) h

theorem strip_chars (n : Int) : strip (chars n) = chars n := by
  have clean : ∀ c ∈ chars n, isBlank c = false := by
    intro c hc
    unfold chars at hc
    split at hc
    · rcases List.mem_cons.1 hc with rfl | hc
      · decide
      · exact isBlank_of_mem_digits hc
    · exact isBlank_of_mem_digits hc
  exact strip_eq_self (fun c hc => clean c (List.mem_of_mem_head? hc))
    (fun c hc => clean c (List.mem_of_getLast? hc))

theorem takeSign_chars (n : Int) : takeSign (chars n) = (decide (n < 0), digits n.natAbs) := by
  unfold chars
  split
  next negative => simp [takeSign, negative]
  next positive =>
    have first : ∀ c ∈ digits n.natAbs, c.isDigit = true := fun _ => isDigit_of_mem_digits
    rw [decide_eq_false positive]
    unfold takeSign
    split
    next rest h => exact absurd (first '-' (h ▸ List.mem_cons_self)) (by decide)
    next rest h => exact absurd (first '+' (h ▸ List.mem_cons_self)) (by decide)
    next => rfl

/-- **An integer is read back.**  What is written for an integer that fits is read as it. -/
theorem read?_write {n : Int} (h : Fits n) : read? (write n) = some n := by
  obtain ⟨ds, hds, hn⟩ := exists_digits n.natAbs
  have read : grouped? (digits n.natAbs) = some ds := grouped?_of_digits hds (digits_ne_nil _)
  have count : ds.length ≤ maxDigits := by
    have same := congrArg List.length hds
    rw [List.length_map, List.length_map] at same
    exact same ▸ h
  rw [read?, write, String.toList_ofList]
  unfold readChars? guard
  simp only [strip_chars, takeSign_chars, read, Option.bind_eq_bind, Option.bind_some, if_pos count,
    Option.pure_def, hn]
  split
  next negative =>
    have := of_decide_eq_true negative
    exact congrArg some (by omega)
  next positive =>
    have := of_decide_eq_false (Bool.eq_false_iff.2 positive)
    exact congrArg some (by omega)

theorem fits_of_read? {s : String} {n : Int} (h : read? s = some n) : Fits n := by
  unfold read? readChars? guard at h
  simp only [Option.bind_eq_bind, Option.bind_eq_some_iff, Option.pure_def, Option.some.injEq] at h
  obtain ⟨ds, hds, _, hcount, hn⟩ := h
  -- The digits are counted before they are read, leading zeros and all.
  have count : ds.length ≤ maxDigits := by
    split at hcount
    next h => exact h
    next => cases hcount
  have small := digitsValue_lt (lt_of_mem_grouped? hds)
  have abs : n.natAbs = digitsValue ds := by
    rw [← hn]
    split <;> simp
  rw [fits_iff, abs]
  exact Nat.lt_of_lt_of_le small (Nat.pow_le_pow_right (by decide) count)

/-! ### Writing -/

theorem write_natCast (n : Nat) : write (n : Nat) = String.ofList (digits n) := by
  rw [write, chars, if_neg (by omega)]
  rfl

/-- An integer is written with digits, perhaps with a sign in front. -/
theorem mem_write {n : Int} {c : Char} (h : c ∈ (write n).toList) : c = '-' ∨ c.isDigit = true := by
  rw [write, String.toList_ofList, chars] at h
  split at h
  next negative =>
    rcases List.mem_cons.1 h with rfl | h
    · exact Or.inl rfl
    · exact Or.inr (isDigit_of_mem_digits h)
  next positive => exact Or.inr (isDigit_of_mem_digits h)

theorem write_neg {n : Int} (pos : 0 < n) : write (-n) = "-" ++ write n := by
  rw [← String.toList_inj, write, write, chars, chars, if_pos (by omega), if_neg (by omega),
    Int.natAbs_neg, String.toList_append, String.toList_ofList, String.toList_ofList,
    String.toList_ofList]
  rfl

theorem write_digit {d : Nat} (h : d < 10) : write (d : Nat) = String.ofList [digitChar d] := by
  have table : ∀ d : Fin 10, chars (d.val : Nat) = [digitChar d.val] := by decide
  rw [write, table ⟨d, h⟩]

/-! ### Digits of ASCII -/

theorem asciiDigit?_lt {c : Char} {d : Nat} (h : asciiDigit? c = some d) : d < 10 := by
  unfold asciiDigit? at h
  split at h
  next digit =>
    cases h
    have last : c.toNat ≤ '9'.toNat := digit.2
    have values : '9'.toNat = 57 ∧ '0'.toNat = 48 := by decide
    omega
  next => cases h

theorem lt_of_mapM_asciiDigit? : ∀ {cs : List Char} {ds : List Nat},
    cs.mapM asciiDigit? = some ds → ∀ d ∈ ds, d < 10 := by
  intro cs
  induction cs with
  | nil =>
    intro ds h
    cases h
    simp
  | cons c rest ih =>
    intro ds h
    rw [List.mapM_cons] at h
    obtain ⟨d, hd, h⟩ := Option.bind_eq_some_iff.1 h
    obtain ⟨more, hmore, h⟩ := Option.bind_eq_some_iff.1 h
    cases h
    exact List.forall_mem_cons.2 ⟨asciiDigit?_lt hd, ih hmore⟩

theorem run_of_mapM_asciiDigit? : ∀ {run : List Char} {ds : List Nat},
    run.mapM asciiDigit? = some ds →
      run.length = ds.length ∧ ∀ c ∈ run, (asciiDigit? c).isSome := by
  intro run
  induction run with
  | nil =>
    intro ds h
    cases h
    exact ⟨rfl, by simp⟩
  | cons c rest ih =>
    intro ds h
    rw [List.mapM_cons] at h
    obtain ⟨d, hd, h⟩ := Option.bind_eq_some_iff.1 h
    obtain ⟨more, hmore, h⟩ := Option.bind_eq_some_iff.1 h
    cases h
    obtain ⟨length, digits⟩ := ih hmore
    refine ⟨congrArg Nat.succ length, List.forall_mem_cons.2 ⟨?_, digits⟩⟩
    rw [hd]
    rfl

end StorageMetadata.Decimal
