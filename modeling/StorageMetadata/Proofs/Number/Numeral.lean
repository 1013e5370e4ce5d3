import Mathlib.Data.List.TakeWhile
import Mathlib.Data.Nat.Digits.Defs
import StorageMetadata.Proofs.Number.Decimal

/-!
# Which texts are read as an integer

`Decimal.Numeral` is the form of an integer in a text, part by part: blanks, maybe a sign, a run of
digits (`Decimal.Run`) and blanks again, with no more digits than are read.  The digits may be of any
script, and the number is what they stand for in base ten.  A text of this form is read, and no other
text is,

    read? s = some n ↔ Numeral s.toList n.

The reader strips the blanks first.  It finds the sign and the digits where they are because neither a
sign nor a digit is a blank.
-/

namespace StorageMetadata.Decimal

open StorageMetadata.Text

/-! ### Runs of digits -/

/-- A run of digits with these values; one underscore may stand between two of them. -/
inductive Run : List Char → List Nat → Prop
  | last {c : Char} {d : Nat} (digit : digit? c = some d) : Run [c] [d]
  | next {c : Char} {d : Nat} {cs : List Char} {ds : List Nat} (digit : digit? c = some d)
      (rest : Run cs ds) : Run (c :: cs) (d :: ds)
  | underscore {c : Char} {d : Nat} {cs : List Char} {ds : List Nat} (digit : digit? c = some d)
      (rest : Run cs ds) : Run (c :: '_' :: cs) (d :: ds)

/-- A run begins with a digit. -/
theorem Run.exists_cons {cs : List Char} {ds : List Nat} (h : Run cs ds) :
    ∃ c rest, cs = c :: rest ∧ (digit? c).isSome := by
  cases h with
  | last digit => exact ⟨_, _, rfl, by rw [digit]; rfl⟩
  | next digit _ => exact ⟨_, _, rfl, by rw [digit]; rfl⟩
  | underscore digit _ => exact ⟨_, _, rfl, by rw [digit]; rfl⟩

/-- A run ends with a digit. -/
theorem Run.exists_append {cs : List Char} {ds : List Nat} (h : Run cs ds) :
    ∃ front c, cs = front ++ [c] ∧ (digit? c).isSome := by
  induction h with
  | last digit => exact ⟨[], _, rfl, by rw [digit]; rfl⟩
  | next _ _ ih =>
    obtain ⟨front, c, rfl, hc⟩ := ih
    exact ⟨_ :: front, c, rfl, hc⟩
  | underscore _ _ ih =>
    obtain ⟨front, c, rfl, hc⟩ := ih
    exact ⟨_ :: '_' :: front, c, rfl, hc⟩

theorem digit?_underscore : digit? '_' = none := by decide

theorem grouped?_of_run {cs : List Char} {ds : List Nat} (h : Run cs ds) :
    grouped? cs = some ds := by
  induction h with
  | last digit => rw [grouped?, digit, Option.map_some]
  | @next c d cs ds digit rest ih =>
    obtain ⟨c', rest', rfl, hc'⟩ := rest.exists_cons
    have bar : c' ≠ '_' := by
      rintro rfl
      rw [digit?_underscore] at hc'
      cases hc'
    rw [grouped?.eq_4 _ _ _ bar, digit, ih]
    rfl
  | underscore digit rest ih =>
    rw [grouped?, digit, ih]
    rfl

theorem run_of_grouped? {cs : List Char} {ds : List Nat} (h : grouped? cs = some ds) :
    Run cs ds := by
  fun_induction grouped? cs generalizing ds with
  | case1 => cases h
  | case2 c =>
    obtain ⟨d, digit, rfl⟩ := Option.map_eq_some_iff.1 h
    exact .last digit
  | case3 c rest ih =>
    simp only [Option.bind_eq_bind, Option.bind_eq_some_iff, Option.pure_def,
      Option.some.injEq] at h
    obtain ⟨d, digit, tail, htail, rfl⟩ := h
    exact .underscore digit (ih htail)
  | case4 c c' rest _ ih =>
    simp only [Option.bind_eq_bind, Option.bind_eq_some_iff, Option.pure_def,
      Option.some.injEq] at h
    obtain ⟨d, digit, tail, htail, rfl⟩ := h
    exact .next digit (ih htail)

theorem grouped?_eq_some_iff {cs : List Char} {ds : List Nat} :
    grouped? cs = some ds ↔ Run cs ds :=
  ⟨run_of_grouped?, grouped?_of_run⟩

theorem digitsValue_eq_ofDigits (ds : List Nat) : digitsValue ds = Nat.ofDigits 10 ds.reverse := by
  induction ds using List.reverseRecOn with
  | nil => rfl
  | append_singleton ds d ih =>
    rw [digitsValue_append, List.reverse_append, List.reverse_singleton, List.singleton_append,
      Nat.ofDigits_cons, ih, Nat.add_comm]

/-! ### Blanks and signs -/

/-- A text is what is left of it without the blanks at its ends, between blanks. -/
theorem exists_blanks (cs : List Char) : ∃ before after, cs = before ++ strip cs ++ after ∧
    (∀ c ∈ before, isBlank c = true) ∧ ∀ c ∈ after, isBlank c = true := by
  obtain ⟨inner, hinner⟩ : ∃ inner, inner = cs.dropWhile isBlank := ⟨_, rfl⟩
  refine ⟨cs.takeWhile isBlank, (inner.reverse.takeWhile isBlank).reverse, ?_, ?_, ?_⟩
  · rw [strip, ← hinner, List.append_assoc, ← List.reverse_append,
      List.takeWhile_append_dropWhile, List.reverse_reverse, hinner,
      List.takeWhile_append_dropWhile]
  · intro c hc
    exact List.mem_takeWhile_imp hc
  · intro c hc
    exact List.mem_takeWhile_imp (List.mem_reverse.1 hc)

/-- The blanks around a text that begins and ends with other characters are stripped off. -/
theorem strip_between {before core after : List Char} (hbefore : ∀ c ∈ before, isBlank c = true)
    (hafter : ∀ c ∈ after, isBlank c = true) (nonempty : core ≠ [])
    (first : ∀ c ∈ core.head?, isBlank c = false) (last : ∀ c ∈ core.getLast?, isBlank c = false) :
    strip (before ++ core ++ after) = core := by
  have front : (core ++ after).dropWhile isBlank = core ++ after := by
    obtain ⟨c, rest, rfl⟩ := List.exists_cons_of_ne_nil nonempty
    rw [List.cons_append, List.dropWhile_cons, if_neg (by simp [first c (by simp)])]
  have back : core.reverse.dropWhile isBlank = core.reverse := by
    obtain ⟨c, rest, hc⟩ := List.exists_cons_of_ne_nil (List.reverse_ne_nil_iff.2 nonempty)
    have end' : c ∈ core.getLast? := by rw [← List.head?_reverse, hc]; rfl
    rw [hc, List.dropWhile_cons, if_neg (by simp [last c end'])]
  have hafter' : ∀ c ∈ after.reverse, isBlank c = true := by
    intro c hc
    exact hafter c (List.mem_reverse.1 hc)
  rw [strip, List.append_assoc, List.dropWhile_append_of_pos hbefore, front, List.reverse_append,
    List.dropWhile_append_of_pos hafter', back, List.reverse_reverse]

/-- A sign, or none, and whether it is a minus sign. -/
inductive Sign : List Char → Bool → Prop
  | none : Sign [] false
  | plus : Sign ['+'] false
  | minus : Sign ['-'] true

theorem exists_sign (cs : List Char) :
    ∃ sign, Sign sign (takeSign cs).1 ∧ cs = sign ++ (takeSign cs).2 := by
  unfold takeSign
  split
  next => exact ⟨_, .minus, rfl⟩
  next => exact ⟨_, .plus, rfl⟩
  next => exact ⟨_, .none, rfl⟩

theorem takeSign_append {sign body : List Char} {negative : Bool} {ds : List Nat}
    (h : Sign sign negative) (run : Run body ds) : takeSign (sign ++ body) = (negative, body) := by
  cases h with
  | plus => rfl
  | minus => rfl
  | none =>
    obtain ⟨c, rest, rfl, hc⟩ := run.exists_cons
    rw [List.nil_append]
    unfold takeSign
    split
    next h =>
      cases h
      exact absurd hc (by decide)
    next h =>
      cases h
      exact absurd hc (by decide)
    next => rfl

theorem isBlank_of_isSome_digit? {c : Char} (h : (digit? c).isSome) : isBlank c = false := by
  cases hb : isBlank c with
  | false => rfl
  | true =>
    rw [digit?_eq_none_of_isBlank hb] at h
    cases h

theorem Sign.head_append {sign body : List Char} {negative : Bool} {ds : List Nat}
    (h : Sign sign negative) (run : Run body ds) :
    ∀ c ∈ (sign ++ body).head?, isBlank c = false := by
  obtain ⟨c, rest, rfl, hc⟩ := run.exists_cons
  intro first hfirst
  cases h with
  | none =>
    cases hfirst
    exact isBlank_of_isSome_digit? hc
  | plus =>
    cases hfirst
    decide
  | minus =>
    cases hfirst
    decide

theorem Run.getLast_append {sign body : List Char} {ds : List Nat} (run : Run body ds) :
    ∀ c ∈ (sign ++ body).getLast?, isBlank c = false := by
  obtain ⟨front, c, rfl, hc⟩ := run.exists_append
  intro last hlast
  rw [← List.append_assoc, List.getLast?_concat] at hlast
  cases hlast
  exact isBlank_of_isSome_digit? hc

/-! ### Numerals -/

/-- The integer that the digits stand for in base ten. -/
def signedValue (negative : Bool) (ds : List Nat) : Int :=
  if negative then -(Nat.ofDigits 10 ds.reverse : Nat) else (Nat.ofDigits 10 ds.reverse : Nat)

/-- Is this how the integer may be written: digits, maybe after a sign, with blanks around? -/
def Numeral (cs : List Char) (n : Int) : Prop :=
  ∃ (before sign body after : List Char) (negative : Bool) (ds : List Nat),
    cs = before ++ (sign ++ body) ++ after ∧
    ((∀ c ∈ before, isBlank c = true) ∧ ∀ c ∈ after, isBlank c = true) ∧
    Sign sign negative ∧ Run body ds ∧ ds.length ≤ maxDigits ∧ n = signedValue negative ds

theorem readChars?_eq_some_iff {cs : List Char} {n : Int} : readChars? cs = some n ↔
    ∃ ds, Run (takeSign (strip cs)).2 ds ∧ ds.length ≤ maxDigits ∧
      n = signedValue (takeSign (strip cs)).1 ds := by
  have value : ∀ ds, signedValue (takeSign (strip cs)).1 ds =
      if (takeSign (strip cs)).1 then -(digitsValue ds : Int) else digitsValue ds := by
    intro ds
    rw [signedValue, digitsValue_eq_ofDigits]
  simp only [value, readChars?, Option.bind_eq_bind, Option.bind_eq_some_iff, Option.pure_def,
    Option.some.injEq, Option.guard_eq_some', grouped?_eq_some_iff]
  constructor
  · rintro ⟨ds, run, -, few, rfl⟩
    exact ⟨ds, run, few, rfl⟩
  · rintro ⟨ds, run, few, rfl⟩
    exact ⟨ds, run, (), few, rfl⟩

/-- **What is read are the numerals.** -/
theorem read?_eq_some_iff {s : String} {n : Int} : read? s = some n ↔ Numeral s.toList n := by
  rw [read?, readChars?_eq_some_iff]
  constructor
  · rintro ⟨ds, run, few, rfl⟩
    obtain ⟨before, after, parts, hbefore, hafter⟩ := exists_blanks s.toList
    obtain ⟨sign, hsign, core⟩ := exists_sign (strip s.toList)
    refine ⟨before, sign, _, after, _, ds, ?_, ⟨hbefore, hafter⟩, hsign, run, few, rfl⟩
    rw [← core, ← parts]
  · rintro ⟨before, sign, body, after, negative, ds, parts, ⟨hbefore, hafter⟩, hsign, run, few, rfl⟩
    have nonempty : sign ++ body ≠ [] := by
      obtain ⟨c, rest, rfl, -⟩ := run.exists_cons
      simp
    have core : strip s.toList = sign ++ body := by
      rw [parts]
      exact strip_between hbefore hafter nonempty (hsign.head_append run) run.getLast_append
    rw [core, takeSign_append hsign run]
    exact ⟨ds, run, few, rfl⟩

end StorageMetadata.Decimal
