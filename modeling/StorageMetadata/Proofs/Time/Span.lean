import Mathlib.Data.List.Basic
import Mathlib.Data.List.TakeWhile
import Mathlib.Tactic.Ring
import StorageMetadata.Proofs.Number.Decimal
import StorageMetadata.Time.Iso8601

/-!
# What a time of day says

`SpellsNumbers` says which texts are numbers of two digits, all or none of them with a separator
in between, that may end in a fraction of a second; and `Span.Spells` which texts name a number of
hours, minutes, seconds and millionths in that way,

    HH, HH:MM or HH:MM:SS, or the same without colons.

A fraction has any number of digits, and the millionths are its whole ones.  What is left behind the
time is told along with it.  A text names at most one span, and it is the one that is read,

    span? cs = some (s, left) ↔ s.Spells left cs.
-/

namespace StorageMetadata

open StorageMetadata.Text StorageMetadata.Decimal

/-! ### Digits -/

namespace Decimal

theorem asciiDigit?_digitChar {d : Nat} (h : d < 10) : asciiDigit? (digitChar d) = some d :=
  (digit?_digitChar ⟨d, h⟩).2

theorem digitsValue_append_append (ds es : List Nat) :
    digitsValue (ds ++ es) = digitsValue ds * 10 ^ es.length + digitsValue es := by
  induction es using List.reverseRecOn with
  | nil => simp [digitsValue]
  | append_singleton es e ih =>
    rw [← List.append_assoc, digitsValue_append, digitsValue_append, ih, List.length_append,
      List.length_singleton, Nat.pow_succ]
    ring

/-- Do the characters write the number with as many digits of ASCII as the width says? -/
def Spells (width n : Nat) (cs : List Char) : Prop :=
  ∃ ds, cs.mapM asciiDigit? = some ds ∧ ds.length = width ∧ digitsValue ds = n

theorem spells_padded {width n : Nat} (h : n < 10 ^ width) : Spells width n (padded width n) := by
  induction width generalizing n with
  | zero =>
    obtain rfl : n = 0 := by simpa using h
    exact ⟨[], rfl, rfl, rfl⟩
  | succ width ih =>
    rw [Nat.pow_succ] at h
    have front : n / 10 < 10 ^ width := by omega
    obtain ⟨ds, read, length, value⟩ := ih front
    refine ⟨ds ++ [n % 10], ?_, by simp [length], ?_⟩
    · rw [padded, List.mapM_append, read, List.mapM_cons, List.mapM_nil,
        asciiDigit?_digitChar (Nat.mod_lt _ (by decide))]
      rfl
    · rw [digitsValue_append, value]
      omega

theorem Spells.isSome {width n : Nat} {cs : List Char} (h : Spells width n cs) :
    ∀ c ∈ cs, (asciiDigit? c).isSome := by
  obtain ⟨ds, read, -⟩ := h
  exact (run_of_mapM_asciiDigit? read).2

theorem Spells.length_eq {width n : Nat} {cs : List Char} (h : Spells width n cs) :
    cs.length = width := by
  obtain ⟨ds, read, length, -⟩ := h
  exact (run_of_mapM_asciiDigit? read).1.trans length

theorem exists_mapM_asciiDigit? {cs : List Char} (h : ∀ c ∈ cs, (asciiDigit? c).isSome) :
    ∃ ds, cs.mapM asciiDigit? = some ds := by
  induction cs with
  | nil => exact ⟨[], rfl⟩
  | cons c cs ih =>
    obtain ⟨first, others⟩ := List.forall_mem_cons.1 h
    obtain ⟨d, hd⟩ := Option.isSome_iff_exists.1 first
    obtain ⟨ds, hds⟩ := ih others
    refine ⟨d :: ds, ?_⟩
    rw [List.mapM_cons, hd, hds]
    rfl

end Decimal

namespace Timestamp

theorem two?_eq_some_iff {a b : Char} {n : Nat} :
    two? a b = some n ↔ Decimal.Spells 2 n [a, b] := by
  simp only [two?, Decimal.Spells, List.mapM_cons, List.mapM_nil, Option.bind_eq_bind,
    Option.bind_eq_some_iff, Option.pure_def, Option.some.injEq]
  constructor
  · rintro ⟨x, ha, y, hb, rfl⟩
    exact ⟨[x, y], ⟨x, ha, [y], ⟨y, hb, [], rfl, rfl⟩, rfl⟩, rfl, by simp [digitsValue]⟩
  · rintro ⟨_, ⟨x, ha, _, ⟨y, hb, _, rfl, rfl⟩, rfl⟩, -, rfl⟩
    exact ⟨x, ha, y, hb, by simp [digitsValue]⟩

theorem exists_of_spells_two {n : Nat} {cs : List Char} (h : Decimal.Spells 2 n cs) :
    ∃ a b, cs = [a, b] ∧ two? a b = some n := by
  obtain ⟨a, b, rfl⟩ := List.length_eq_two.1 h.length_eq
  exact ⟨a, b, rfl, two?_eq_some_iff.2 h⟩

theorem four?_eq_some_iff {a b c d : Char} {n : Nat} :
    four? a b c d = some n ↔ Decimal.Spells 4 n [a, b, c, d] := by
  simp only [four?, two?, Decimal.Spells, List.mapM_cons, List.mapM_nil, Option.bind_eq_bind,
    Option.bind_eq_some_iff, Option.pure_def, Option.some.injEq]
  constructor
  · rintro ⟨_, ⟨w, ha, x, hb, rfl⟩, _, ⟨y, hc, z, hd, rfl⟩, rfl⟩
    refine ⟨[w, x, y, z], ⟨w, ha, [x, y, z], ⟨x, hb, [y, z], ⟨y, hc, [z], ⟨z, hd, [], rfl, rfl⟩,
      rfl⟩, rfl⟩, rfl⟩, rfl, ?_⟩
    simp only [digitsValue, List.foldl_cons, List.foldl_nil]
    omega
  · rintro ⟨_, ⟨w, ha, _, ⟨x, hb, _, ⟨y, hc, _, ⟨z, hd, _, rfl, rfl⟩, rfl⟩, rfl⟩, rfl⟩, -, rfl⟩
    refine ⟨_, ⟨w, ha, x, hb, rfl⟩, _, ⟨y, hc, z, hd, rfl⟩, ?_⟩
    simp only [digitsValue, List.foldl_cons, List.foldl_nil]
    omega

theorem exists_of_spells_four {n : Nat} {cs : List Char} (h : Decimal.Spells 4 n cs) :
    ∃ a b c d, cs = [a, b, c, d] ∧ four? a b c d = some n := by
  have long := h.length_eq
  rcases cs with _ | ⟨a, _ | ⟨b, _ | ⟨c, _ | ⟨d, _ | ⟨e, cs⟩⟩⟩⟩⟩ <;> simp at long
  exact ⟨a, b, c, d, rfl, four?_eq_some_iff.2 h⟩

/-! ### Fractions of a second -/

/-- Does the text begin with the digits of a fraction of a second, so many whole millionths?  Fewer
than six digits end the text, and what is left behind more of them begins with none. -/
def SpellsMicros (micros : Nat) (left cs : List Char) : Prop :=
  ∃ digits ds, digits.mapM asciiDigit? = some ds ∧ digits ≠ [] ∧
    micros = 1000000 * digitsValue ds / 10 ^ ds.length ∧ cs = digits ++ left ∧
    (left = [] ∨ 6 ≤ digits.length) ∧ ∀ c ∈ left.head?, asciiDigit? c = none

/-- The millionths that are read are the whole ones of the fraction. -/
theorem value_take_six {ds : List Nat} (h : ∀ d ∈ ds, d < 10) :
    digitsValue (ds.take 6) * 10 ^ (6 - (ds.take 6).length) =
      1000000 * digitsValue ds / 10 ^ ds.length := by
  obtain ⟨front, hfront⟩ : ∃ front, front = ds.take 6 := ⟨_, rfl⟩
  obtain ⟨back, hback⟩ : ∃ back, back = ds.drop 6 := ⟨_, rfl⟩
  have parts : ds = front ++ back := by rw [hfront, hback, List.take_append_drop]
  have short : front.length ≤ 6 := by rw [hfront]; exact List.length_take_le 6 ds
  have cut : front.length = 6 ∨ back = [] := by
    by_cases long : 6 ≤ ds.length
    · exact Or.inl (by rw [hfront, List.length_take, Nat.min_eq_left long])
    · exact Or.inr (by rw [hback, List.drop_eq_nil_of_le (by omega)])
  have below : digitsValue back < 10 ^ back.length :=
    digitsValue_lt fun d hd => h d (parts ▸ List.mem_append_right front hd)
  have millionth : (1000000 : Nat) = 10 ^ (6 - front.length) * 10 ^ front.length := by
    rw [← Nat.pow_add, Nat.sub_add_cancel short]
  have rest : 10 ^ (6 - front.length) * digitsValue back / 10 ^ back.length = 0 := by
    rcases cut with six | none
    · rw [six, Nat.sub_self, Nat.pow_zero, Nat.one_mul, Nat.div_eq_of_lt below]
    · rw [none]
      simp [digitsValue]
  rw [← hfront, parts, digitsValue_append_append, List.length_append]
  calc digitsValue front * 10 ^ (6 - front.length)
      = digitsValue front * 10 ^ (6 - front.length) +
          10 ^ (6 - front.length) * digitsValue back / 10 ^ back.length := by rw [rest, Nat.add_zero]
    _ = (10 ^ (6 - front.length) * digitsValue back +
          digitsValue front * 10 ^ (6 - front.length) * 10 ^ back.length) / 10 ^ back.length := by
        rw [Nat.add_mul_div_right _ _ (Nat.pow_pos (by decide)), Nat.add_comm]
    _ = 10 ^ front.length * (10 ^ (6 - front.length) *
          (digitsValue front * 10 ^ back.length + digitsValue back)) /
            (10 ^ front.length * 10 ^ back.length) := by
        rw [Nat.mul_div_mul_left _ _ (Nat.pow_pos (by decide))]
        congr 1
        ring
    _ = 1000000 * (digitsValue front * 10 ^ back.length + digitsValue back) /
          10 ^ (front.length + back.length) := by
        rw [millionth, Nat.pow_add]
        congr 1
        ring

/-- The first digits of a run are read alone, too. -/
theorem mapM_take_asciiDigit? : ∀ {digits : List Char} {ds : List Nat},
    digits.mapM asciiDigit? = some ds → ∀ k, (digits.take k).mapM asciiDigit? = some (ds.take k) := by
  intro digits
  induction digits with
  | nil =>
    intro ds h k
    cases h
    simp
  | cons c digits ih =>
    intro ds h k
    rw [List.mapM_cons] at h
    obtain ⟨d, hd, h⟩ := Option.bind_eq_some_iff.1 h
    obtain ⟨more, hmore, h⟩ := Option.bind_eq_some_iff.1 h
    cases h
    cases k with
    | zero => rfl
    | succ k =>
      rw [List.take_succ_cons, List.take_succ_cons, List.mapM_cons, hd, ih hmore k]
      rfl

/-- No digit stands behind a run of them that is as long as can be. -/
theorem dropWhile_isDigit_append {digits left : List Char} (every : ∀ c ∈ digits, isDigit c = true)
    (ended : ∀ c ∈ left.head?, asciiDigit? c = none) : (digits ++ left).dropWhile isDigit = left := by
  rw [List.dropWhile_append_of_pos every]
  cases left with
  | nil => rfl
  | cons c left => rw [List.dropWhile_cons_of_neg (by simp [isDigit, ended c rfl])]

theorem spellsMicros_of_micros? {cs left : List Char} {micros : Nat} (text : cs ≠ [])
    (h : micros? cs = some (micros, left)) : SpellsMicros micros left cs := by
  unfold micros? at h
  obtain ⟨ds, kept, h⟩ := Option.bind_eq_some_iff.1 h
  obtain ⟨rfl, rfl⟩ := Prod.mk.inj (Option.some.inj h)
  obtain ⟨front, hfront⟩ : ∃ front, front = cs.take 6 := ⟨_, rfl⟩
  obtain ⟨back, hback⟩ : ∃ back, back = (cs.drop 6).takeWhile isDigit := ⟨_, rfl⟩
  have digits : ∀ c ∈ back, isDigit c = true := by
    rw [hback]
    exact fun c hc => List.mem_takeWhile_imp hc
  obtain ⟨es, more⟩ := exists_mapM_asciiDigit? digits
  have length : ds.length = min 6 cs.length := by
    rw [← (run_of_mapM_asciiDigit? kept).1, List.length_take]
  -- Without six digits there are no more of them.
  have cut : ds.length = 6 ∨ cs.length < 6 ∧ es = [] := by
    by_cases short : cs.length < 6
    · refine Or.inr ⟨short, ?_⟩
      have none : back = [] := by rw [hback, List.drop_eq_nil_of_le (by omega), List.takeWhile_nil]
      rw [none] at more
      exact (Option.some.inj more).symm
    · exact Or.inl (by omega)
  have first : (ds ++ es).take 6 = ds := by
    rcases cut with six | ⟨short, rfl⟩
    · rw [← six, List.take_left]
    · rw [List.append_nil, List.take_of_length_le (by omega)]
  refine ⟨front ++ back, ds ++ es, ?_, ?_, ?_, ?_, ?_, ?_⟩
  · rw [hfront, List.mapM_append, kept, more]
    rfl
  · cases cs with
    | nil => exact absurd rfl text
    | cons c cs => simp [hfront]
  · have below : ∀ d ∈ ds ++ es, d < 10 := by
      intro d hd
      rcases List.mem_append.1 hd with hd | hd
      · exact lt_of_mapM_asciiDigit? kept d hd
      · exact lt_of_mapM_asciiDigit? more d hd
    rw [← value_take_six below, first]
    rfl
  · rw [List.append_assoc, hback, List.takeWhile_append_dropWhile, hfront, List.take_append_drop]
  · rcases cut with six | ⟨short, -⟩
    · refine Or.inr ?_
      rw [List.length_append, hfront, (run_of_mapM_asciiDigit? kept).1, six]
      exact Nat.le_add_right 6 _
    · exact Or.inl (by rw [List.drop_eq_nil_of_le (by omega), List.dropWhile_nil])
  · intro c hc
    have last := List.head?_dropWhile_not isDigit (cs.drop 6)
    rw [Option.mem_def.1 hc] at last
    exact Option.not_isSome_iff_eq_none.1 (by simpa [isDigit] using last)

/-- **A fraction is read up to its end.** -/
theorem micros?_eq_some_iff {cs left : List Char} {micros : Nat} (text : cs ≠ []) :
    micros? cs = some (micros, left) ↔ SpellsMicros micros left cs := by
  refine ⟨spellsMicros_of_micros? text, ?_⟩
  rintro ⟨digits, ds, read, -, rfl, rfl, long, ended⟩
  obtain ⟨length, every⟩ := run_of_mapM_asciiDigit? read
  have front : (digits ++ left).take 6 = digits.take 6 := by
    rcases long with rfl | six
    · rw [List.append_nil]
    · rw [List.take_append_of_le_length six]
  have back : (digits ++ left).drop 6 = digits.drop 6 ++ left := by
    rcases long with rfl | six
    · rw [List.append_nil, List.append_nil]
    · rw [List.drop_append_of_le_length six]
  have rest : ((digits ++ left).drop 6).dropWhile isDigit = left := by
    rw [back]
    exact dropWhile_isDigit_append (fun c hc => every c (List.mem_of_mem_drop hc)) ended
  unfold micros?
  rw [front, rest, mapM_take_asciiDigit? read]
  exact congrArg (fun n => some (n, left)) (value_take_six (lt_of_mapM_asciiDigit? read))

/-! ### Numbers -/

/-- What may stand behind the last number of a time: nothing, one character of ASCII, which is left,
or a fraction of a second after a point or a comma. -/
inductive SpellsTail : Nat → List Char → List Char → Prop
  | nothing : SpellsTail 0 [] []
  | character {c : Char} (ascii : c.toNat < 128) : SpellsTail 0 [c] [c]
  | fraction {mark : Char} {micros : Nat} {left digits : List Char} (marks : mark = '.' ∨ mark = ',')
      (fraction : SpellsMicros micros left digits) : SpellsTail micros left (mark :: digits)

/-- Does the text begin with these numbers of two digits, one and `more` at most, the separator
between them, and the fraction?  If there are as many numbers as may be, another separator may stand
for the point of the fraction, but a single character is no fraction. -/
inductive SpellsNumbers (separator : List Char) :
    (more : Nat) → List Nat → Nat → List Char → List Char → Prop
  | last {more n micros : Nat} {nn left tail : List Char} (number : Decimal.Spells 2 n nn)
      (behind : SpellsTail micros left tail) :
      SpellsNumbers separator more [n] micros left (nn ++ tail)
  | fraction {n micros : Nat} {nn left digits : List Char} (number : Decimal.Spells 2 n nn)
      (fraction : SpellsMicros micros left digits) (long : 2 ≤ (separator ++ digits).length) :
      SpellsNumbers separator 0 [n] micros left (nn ++ (separator ++ digits))
  | next {more n micros : Nat} {ns : List Nat} {nn left cs : List Char}
      (number : Decimal.Spells 2 n nn) (others : SpellsNumbers separator more ns micros left cs) :
      SpellsNumbers separator (more + 1) (n :: ns) micros left (nn ++ (separator ++ cs))

/-- The separator that is read between two numbers. -/
def separator (colons : Bool) : List Char := if colons then [':'] else []

section

variable {colons : Bool} {a b c d : Char} {n : Nat} (read : two? a b = some n)

include read

theorem numbers?_pair (more : Nat) : numbers? colons more [a, b] = some ([n], 0, []) := by
  rw [numbers?, read]
  rfl

theorem numbers?_character (more : Nat) :
    numbers? colons more [a, b, c] = if c.toNat < 128 then some ([n], 0, [c]) else none := by
  rw [numbers?, read]
  unfold guard
  show (if c.toNat < 128 then _ else _ : Option Unit).bind _ = _
  split <;> rfl

theorem numbers?_mark (marks : c = '.' ∨ c = ',') (more : Nat) (rest : List Char) :
    numbers? colons more (a :: b :: c :: d :: rest) =
      (micros? (d :: rest)).map fun fraction => ([n], fraction) := by
  rw [numbers?, read]
  show (if c = '.' ∨ c = ',' then _ else _ : Option _) = _
  rw [if_pos marks, Option.map_eq_bind]
  rfl

theorem numbers?_separator (noMark : ¬(c = '.' ∨ c = ',')) (more : Nat) (rest : List Char) :
    numbers? colons more (a :: b :: c :: d :: rest) =
      if colons = true → c = ':' then
        match more with
        | 0 => (micros? (if colons then d :: rest else c :: d :: rest)).map fun fraction =>
            ([n], fraction)
        | more + 1 => (numbers? colons more (if colons then d :: rest else c :: d :: rest)).map
            fun others => (n :: others.1, others.2)
      else none := by
  rw [numbers?, read]
  unfold guard
  show (if c = '.' ∨ c = ',' then _ else _ : Option _) = _
  rw [if_neg noMark]
  show (if colons = true → c = ':' then _ else _ : Option Unit).bind _ = _
  split
  · cases more with
    | zero => exact Option.map_eq_bind.symm
    | succ more => exact Option.map_eq_bind.symm
  · rfl

end

theorem SpellsMicros.ne_nil {micros : Nat} {left cs : List Char} (h : SpellsMicros micros left cs) :
    cs ≠ [] := by
  obtain ⟨digits, _, -, some, -, rfl, -⟩ := h
  exact List.append_ne_nil_of_left_ne_nil some left

theorem SpellsMicros.head_isSome {micros : Nat} {left cs : List Char}
    (h : SpellsMicros micros left cs) : ∀ c ∈ cs.head?, (asciiDigit? c).isSome := by
  obtain ⟨digits, _, read, some, -, rfl, -⟩ := h
  obtain ⟨c, digits, rfl⟩ := List.exists_cons_of_ne_nil some
  simpa using (run_of_mapM_asciiDigit? read).2 c List.mem_cons_self

theorem SpellsNumbers.head {separator : List Char} {more micros : Nat} {ns : List Nat}
    {left cs : List Char} (h : SpellsNumbers separator more ns micros left cs) :
    ∃ a b rest, cs = a :: b :: rest ∧ (asciiDigit? a).isSome ∧ (asciiDigit? b).isSome := by
  have front : ∀ {n : Nat} {nn rest : List Char}, Decimal.Spells 2 n nn → ∃ a b rest',
      nn ++ rest = a :: b :: rest' ∧ (asciiDigit? a).isSome ∧ (asciiDigit? b).isSome := by
    intro n nn rest number
    obtain ⟨a, b, rfl, -⟩ := exists_of_spells_two number
    exact ⟨a, b, rest, rfl, number.isSome a (by simp), number.isSome b (by simp)⟩
  cases h with
  | last number _ => exact front number
  | fraction number _ _ => exact front number
  | next number _ => exact front number

/-- What the numbers and their fraction spell is read. -/
theorem numbers?_of_spellsNumbers {colons : Bool} {more micros : Nat} {ns : List Nat}
    {left cs : List Char} (h : SpellsNumbers (separator colons) more ns micros left cs) :
    numbers? colons more cs = some (ns, micros, left) := by
  have noMark : ∀ {c : Char}, (asciiDigit? c).isSome ∨ c = ':' → ¬(c = '.' ∨ c = ',') := by
    rintro c h (rfl | rfl) <;> revert h <;> decide
  induction h with
  | last number behind =>
    obtain ⟨a, b, rfl, read⟩ := exists_of_spells_two number
    cases behind with
    | nothing => exact numbers?_pair read _
    | character ascii => exact (numbers?_character read _).trans (if_pos ascii)
    | @fraction _ _ _ digits marks fraction =>
      obtain ⟨d, rest, rfl⟩ := List.exists_cons_of_ne_nil fraction.ne_nil
      refine (numbers?_mark read marks _ rest).trans ?_
      rw [(micros?_eq_some_iff (List.cons_ne_nil d rest)).2 fraction]
      rfl
  | @fraction _ _ _ _ digits number fraction long =>
    obtain ⟨a, b, rfl, read⟩ := exists_of_spells_two number
    obtain ⟨d, rest, rfl⟩ := List.exists_cons_of_ne_nil fraction.ne_nil
    have spelled := (micros?_eq_some_iff (List.cons_ne_nil d rest)).2 fraction
    cases colons with
    | true =>
      refine (numbers?_separator read (noMark (Or.inr rfl)) _ rest).trans ?_
      simp only [if_true, spelled]
      rfl
    | false =>
      cases rest with
      | nil => simp [separator] at long
      | cons e rest =>
        refine (numbers?_separator read (noMark (Or.inl (fraction.head_isSome d rfl))) _ rest).trans
          ?_
        simp only [Bool.false_eq_true, false_implies, if_true, if_false, spelled]
        rfl
  | @next _ _ _ _ _ _ cs number others ih =>
    obtain ⟨a, b, rfl, read⟩ := exists_of_spells_two number
    obtain ⟨d, e, rest, rfl, digit, -⟩ := others.head
    cases colons with
    | true =>
      refine (numbers?_separator read (noMark (Or.inr rfl)) _ (e :: rest)).trans ?_
      simp only [if_true, ih]
      rfl
    | false =>
      refine (numbers?_separator read (noMark (Or.inl digit)) _ rest).trans ?_
      simp only [Bool.false_eq_true, false_implies, if_true, if_false, ih]
      rfl

/-- A time that is read begins with a number, and then it ends or a separator follows. -/
theorem exists_of_numbers? {colons : Bool} {more micros : Nat} {ns : List Nat} {left cs : List Char}
    (h : numbers? colons more cs = some (ns, micros, left)) :
    ∃ n nn rest, Decimal.Spells 2 n nn ∧ cs = nn ++ rest ∧
      (ns = [n] ∧ SpellsTail micros left rest ∨
        ∃ next, next ≠ [] ∧ 2 ≤ rest.length ∧ rest = separator colons ++ next ∧
          match more with
          | 0 => ns = [n] ∧ micros? next = some (micros, left)
          | more + 1 => ∃ others, ns = n :: others ∧
              numbers? colons more next = some (others, micros, left)) := by
  obtain ⟨a, b, rest, rfl⟩ : ∃ a b rest, cs = a :: b :: rest := by
    rcases cs with _ | ⟨a, _ | ⟨b, rest⟩⟩
    · cases (numbers?.eq_2 colons more [] fun _ _ _ => nofun).symm.trans h
    · cases (numbers?.eq_2 colons more [a] fun _ _ _ => nofun).symm.trans h
    · exact ⟨a, b, rest, rfl⟩
  obtain ⟨n, read⟩ : ∃ n, two? a b = some n := by
    rw [numbers?] at h
    obtain ⟨n, read, -⟩ := Option.bind_eq_some_iff.1 h
    exact ⟨n, read⟩
  refine ⟨n, [a, b], rest, two?_eq_some_iff.1 read, rfl, ?_⟩
  rcases rest with _ | ⟨c, _ | ⟨d, rest⟩⟩
  · rw [numbers?_pair read] at h
    cases h
    exact Or.inl ⟨rfl, .nothing⟩
  · rw [numbers?_character read, Option.ite_none_right_eq_some] at h
    obtain ⟨ascii, h⟩ := h
    cases h
    exact Or.inl ⟨rfl, .character ascii⟩
  · by_cases marks : c = '.' ∨ c = ','
    · rw [numbers?_mark read marks] at h
      obtain ⟨_, fraction, h⟩ := Option.map_eq_some_iff.1 h
      cases h
      exact Or.inl ⟨rfl, .fraction marks ((micros?_eq_some_iff (List.cons_ne_nil d rest)).1 fraction)⟩
    · rw [numbers?_separator read marks, Option.ite_none_right_eq_some] at h
      obtain ⟨colon, h⟩ := h
      refine Or.inr ⟨if colons then d :: rest else c :: d :: rest, ?_, Nat.le_add_left 2 _, ?_, ?_⟩
      · split <;> exact List.cons_ne_nil _ _
      · cases colons with
        | true => rw [colon rfl]; rfl
        | false => rfl
      · cases more with
        | zero =>
          obtain ⟨_, fraction, h⟩ := Option.map_eq_some_iff.1 h
          cases h
          exact ⟨rfl, fraction⟩
        | succ more =>
          obtain ⟨⟨ns, _⟩, others, h⟩ := Option.map_eq_some_iff.1 h
          cases h
          exact ⟨ns, rfl, others⟩

/-- What is read is spelled by the numbers and their fraction. -/
theorem spellsNumbers_of_numbers? {colons : Bool} {more micros : Nat} {ns : List Nat}
    {left cs : List Char} (h : numbers? colons more cs = some (ns, micros, left)) :
    SpellsNumbers (separator colons) more ns micros left cs := by
  induction more generalizing cs ns with
  | zero =>
    obtain ⟨n, nn, rest, number, rfl, ⟨rfl, behind⟩ | ⟨next, text, long, rfl, rfl, fraction⟩⟩ :=
      exists_of_numbers? h
    · exact .last number behind
    · exact .fraction number ((micros?_eq_some_iff text).1 fraction) long
  | succ more ih =>
    obtain ⟨n, nn, rest, number, rfl, ⟨rfl, behind⟩ | ⟨next, -, -, rfl, others, rfl, read⟩⟩ :=
      exists_of_numbers? h
    · exact .last number behind
    · exact .next number (ih read)

/-! ### Spans -/

/-- Does the text begin with the hours, then maybe the minutes, then maybe the seconds of the span,
all or none with colons in between, and with its millionths as a fraction? -/
def Span.Spells (s : Span) (left cs : List Char) : Prop :=
  ∃ separator ns, (separator = [] ∨ separator = [':']) ∧
    SpellsNumbers separator 2 ns s.micros left cs ∧
    s.hours = ns.getD 0 0 ∧ s.minutes = ns.getD 1 0 ∧ s.seconds = ns.getD 2 0

/-- The third character tells whether there are colons, unless no more than one number is read. -/
theorem spellsNumbers_separator {separator' : List Char} (colons : separator' = [] ∨ separator' = [':'])
    {micros : Nat} {ns : List Nat} {left cs : List Char}
    (h : SpellsNumbers separator' 2 ns micros left cs) :
    SpellsNumbers (separator (decide (cs[2]? = some ':'))) 2 ns micros left cs := by
  cases h with
  | last number behind => exact .last number behind
  | @next _ _ _ _ nn _ cs number others =>
    obtain ⟨a, b, rfl, -⟩ := exists_of_spells_two number
    rcases colons with rfl | rfl
    · obtain ⟨c, d, rest, rfl, digit, -⟩ := others.head
      have noColon : c ≠ ':' := by
        rintro rfl
        exact absurd digit (by decide)
      rw [show decide (([a, b] ++ ([] ++ c :: d :: rest))[2]? = some ':') = false by simpa using noColon]
      exact .next number others
    · exact .next number others

/-- **A span is read where a text names it**, and nowhere else. -/
theorem span?_eq_some_iff {cs left : List Char} {s : Span} :
    span? cs = some (s, left) ↔ s.Spells left cs := by
  constructor
  · intro h
    obtain ⟨⟨ns, micros, left'⟩, numbers, h⟩ := Option.bind_eq_some_iff.1 h
    cases h
    refine ⟨_, ns, ?_, spellsNumbers_of_numbers? numbers, rfl, rfl, rfl⟩
    unfold separator
    split
    · exact Or.inr rfl
    · exact Or.inl rfl
  · rintro ⟨separator, ns, colons, spells, hours, minutes, seconds⟩
    unfold span?
    rw [numbers?_of_spellsNumbers (spellsNumbers_separator colons spells)]
    show some (_, left) = some (s, left)
    rw [← hours, ← minutes, ← seconds]

/-- A span is named by its hours and minutes with a colon in between. -/
theorem Span.spells_minutes {hours minutes : Nat} {hh mm : List Char}
    (hhours : Decimal.Spells 2 hours hh) (hminutes : Decimal.Spells 2 minutes mm) :
    (⟨hours, minutes, 0, 0⟩ : Span).Spells [] (hh ++ ':' :: mm) := by
  refine ⟨[':'], [hours, minutes], Or.inr rfl, ?_, rfl, rfl, rfl⟩
  have last : SpellsNumbers [':'] 1 [minutes] 0 [] (mm ++ []) := .last hminutes .nothing
  rw [List.append_nil] at last
  exact .next hhours last

/-- A span is named by its hours, minutes and seconds, with colons in between, and a fraction. -/
theorem Span.spells_seconds {hours minutes seconds micros : Nat} {hh mm ss left tail : List Char}
    (hhours : Decimal.Spells 2 hours hh) (hminutes : Decimal.Spells 2 minutes mm)
    (hseconds : Decimal.Spells 2 seconds ss) (behind : SpellsTail micros left tail) :
    (⟨hours, minutes, seconds, micros⟩ : Span).Spells left
      (hh ++ ':' :: (mm ++ ':' :: (ss ++ tail))) :=
  ⟨[':'], [hours, minutes, seconds], Or.inr rfl, .next hhours (.next hminutes (.last hseconds behind)),
    rfl, rfl, rfl⟩

end Timestamp

end StorageMetadata
