import StorageMetadata.Proofs.Json.Reader

/-!
# Values without parts

A string, a number or a word is read off the front of a text, and it is the same whatever the rest of
the text is, as long as that is one that may stand after a value (`Ends`).  Each step of the reader
takes the same off a text with more text after it; only a text that breaks off inside of an escape
could go on in another way, but such a text is not read at all.
-/

namespace StorageMetadata.Json

open StorageMetadata.Text

/-- The characters that may stand after a value. -/
def followers : List Char := [' ', '\t', '\n', '\r', ',', ']', '\x7d']

/-- Is this an end of a text before which a value may stand: nothing, a blank, a comma or a closing
bracket? -/
def Ends (k : List Char) : Prop := ∀ c rest, k = c :: rest → c ∈ followers

theorem ends_cons {c : Char} (h : c ∈ followers) (rest : List Char) : Ends (c :: rest) := by
  rintro _ _ ⟨⟩
  exact h

/-! ### Numbers -/

/-- Does a step take the same off a text whatever follows it? -/
def Local {α : Type} (take : List Char → α × List Char) (k : List Char) : Prop :=
  ∀ cs, take (cs ++ k) = ((take cs).1, (take cs).2 ++ k)

variable {k : List Char}

theorem takeDigits_local (hk : Ends k) : Local takeDigits k := by
  have noDigit : ∀ c ∈ followers, asciiDigit? c = none := by
    intro c hc
    simp only [followers, List.mem_cons, List.not_mem_nil, or_false] at hc
    rcases hc with rfl | rfl | rfl | rfl | rfl | rfl | rfl <;> rfl
  intro cs
  induction cs with
  | nil =>
    cases k with
    | nil => rfl
    | cons c rest =>
      show takeDigits (c :: rest) = ([], c :: rest)
      rw [takeDigits, noDigit c (hk c rest rfl)]
  | cons c rest ih =>
    rw [List.cons_append, takeDigits, takeDigits]
    cases asciiDigit? c with
    | none => rfl
    | some d =>
      simp only [ih]

theorem takeWhole_local (hk : Ends k) : Local takeWhole k := by
  intro cs
  cases cs with
  | nil =>
    have none : takeWhole k = takeDigits k := by
      unfold takeWhole
      split
      next rest => exact absurd (hk '0' rest rfl) (by decide)
      next => rfl
    rw [List.nil_append, none]
    exact takeDigits_local hk []
  | cons c rest =>
    by_cases zero : c = '0'
    · subst zero
      rfl
    · have other : ∀ rest, takeWhole (c :: rest) = takeDigits (c :: rest) := by
        intro rest
        rw [takeWhole.eq_2]
        rintro _ ⟨⟩
        exact zero rfl
      rw [List.cons_append, other, other]
      exact takeDigits_local hk (c :: rest)

theorem takeFraction_local (hk : Ends k) : Local takeFraction k := by
  intro cs
  have other : ∀ {c : Char} (rest : List Char), c ≠ '.' →
      takeFraction (c :: rest) = ([], c :: rest) := by
    intro c rest h
    rw [takeFraction.eq_2]
    rintro _ ⟨⟩
    exact h rfl
  cases cs with
  | nil =>
    cases k with
    | nil => rfl
    | cons c rest =>
      refine other rest ?_
      rintro rfl
      exact absurd (hk '.' rest rfl) (by decide)
  | cons c rest =>
    by_cases point : c = '.'
    · subst point
      rw [List.cons_append, takeFraction, takeFraction, takeDigits_local hk rest]
      cases takeDigits rest with
      | mk ds after => cases ds <;> rfl
    · rw [List.cons_append, other _ point, other _ point]
      rfl

theorem takeSign_local (hk : Ends k) : Local Decimal.takeSign k := by
  intro cs
  have other : ∀ {c : Char} (rest : List Char), c ≠ '-' → c ≠ '+' →
      Decimal.takeSign (c :: rest) = (false, c :: rest) := by
    intro c rest minus plus
    rw [Decimal.takeSign.eq_3]
    · rintro _ ⟨⟩
      exact minus rfl
    · rintro _ ⟨⟩
      exact plus rfl
  cases cs with
  | nil =>
    cases k with
    | nil => rfl
    | cons c rest =>
      refine other rest ?_ ?_
      · rintro rfl
        exact absurd (hk '-' rest rfl) (by decide)
      · rintro rfl
        exact absurd (hk '+' rest rfl) (by decide)
  | cons c rest =>
    by_cases minus : c = '-'
    · subst minus
      rfl
    · by_cases plus : c = '+'
      · subst plus
        rfl
      · rw [List.cons_append, other _ minus plus, other _ minus plus]
        rfl

theorem takeExponent_local (hk : Ends k) : Local takeExponent k := by
  intro cs
  have other : ∀ {c : Char} (rest : List Char), ¬(c = 'e' ∨ c = 'E') →
      takeExponent (c :: rest) = (none, c :: rest) := by
    intro c rest h
    rw [takeExponent, if_neg h]
  cases cs with
  | nil =>
    cases k with
    | nil => rfl
    | cons c rest =>
      refine other rest ?_
      rintro (rfl | rfl)
      · exact absurd (hk 'e' rest rfl) (by decide)
      · exact absurd (hk 'E' rest rfl) (by decide)
  | cons c rest =>
    by_cases exponent : c = 'e' ∨ c = 'E'
    · rw [List.cons_append, takeExponent, takeExponent, if_pos exponent, if_pos exponent,
        takeSign_local hk rest]
      dsimp only
      rw [takeDigits_local hk (Decimal.takeSign rest).2]
      cases takeDigits (Decimal.takeSign rest).2 with
      | mk ds after => cases ds <;> rfl
    · rw [List.cons_append, other _ exponent, other _ exponent]
      rfl

/-- The number at the front of a text whose sign has been taken. -/
def unsigned (negative : Bool) (body start : List Char) : Step (Value × List Char) :=
  let (whole, rest) := takeWhole body
  if whole = [] then .error ⟨.value, start⟩
  else
    let (fraction, rest) := takeFraction rest
    let (exponent, rest) := takeExponent rest
    if fraction = [] ∧ exponent = none then
      if Decimal.maxDigits < whole.length then .error ⟨.tooManyDigits, start⟩
      else .ok (.int (Binary64.signed negative (Decimal.digitsValue whole)), rest)
    else
      let shift := exponent.getD 0 - (fraction.length : Int)
      .ok (.float (Binary64.ofScaled negative (whole ++ fraction) shift), rest)

theorem number_minus (rest : List Char) : number ('-' :: rest) = unsigned true rest ('-' :: rest) :=
  rfl

theorem number_of_ne {c : Char} (h : c ≠ '-') (rest : List Char) :
    number (c :: rest) = unsigned false (c :: rest) (c :: rest) := by
  unfold number
  split
  next negative body hsign =>
    split at hsign
    next minus => exact absurd (List.cons.inj minus).1 h
    next =>
      cases hsign
      rfl

theorem unsigned_append (hk : Ends k) {negative : Bool} {body start after : List Char} {v : Value}
    (h : unsigned negative body start = .ok (v, after)) (start' : List Char) :
    unsigned negative (body ++ k) start' = .ok (v, after ++ k) := by
  obtain ⟨whole, rest, hwhole⟩ : ∃ whole rest, takeWhole body = (whole, rest) := ⟨_, _, rfl⟩
  obtain ⟨fraction, rest', hfraction⟩ : ∃ fraction rest', takeFraction rest = (fraction, rest') :=
    ⟨_, _, rfl⟩
  obtain ⟨exponent, rest'', hexponent⟩ : ∃ exponent rest'', takeExponent rest' =
    (exponent, rest'') := ⟨_, _, rfl⟩
  simp only [unsigned, hwhole, hfraction, hexponent] at h
  simp only [unsigned, takeWhole_local hk body, hwhole, takeFraction_local hk rest, hfraction,
    takeExponent_local hk rest', hexponent]
  split at h
  next => cases h
  next some =>
    rw [if_neg some]
    split at h
    next integer =>
      rw [if_pos integer]
      split at h
      next => cases h
      next short =>
        cases h
        rw [if_neg short]
    next fractional =>
      cases h
      rw [if_neg fractional]

theorem number_append (hk : Ends k) {c : Char} {rest after : List Char} {v : Value}
    (h : number (c :: rest) = .ok (v, after)) :
    number (c :: rest ++ k) = .ok (v, after ++ k) := by
  by_cases minus : c = '-'
  · subst minus
    rw [number_minus] at h
    exact unsigned_append hk h _
  · rw [number_of_ne minus] at h
    rw [List.cons_append, number_of_ne minus]
    exact unsigned_append hk h _

/-- A number begins with a digit, perhaps after a minus sign. -/
theorem digit_of_number {c : Char} {rest after : List Char} {v : Value}
    (h : number (c :: rest) = .ok (v, after)) :
    (asciiDigit? c).isSome ∨ c = '-' ∧ ∃ d more, rest = d :: more ∧ (asciiDigit? d).isSome := by
  have first : ∀ {negative : Bool} {body start : List Char},
      unsigned negative body start = .ok (v, after) →
        ∃ d more, body = d :: more ∧ (asciiDigit? d).isSome := by
    intro negative body start h
    obtain ⟨run, hrun, values⟩ := takeWhole_spec body
    cases run with
    | nil =>
      have none : (takeWhole body).1 = [] := (Option.some.inj values).symm
      simp only [unsigned, none, if_true] at h
      cases h
    | cons d run =>
      obtain ⟨-, digits⟩ := Decimal.run_of_mapM_asciiDigit? values
      exact ⟨d, run ++ (takeWhole body).2, hrun, digits d List.mem_cons_self⟩
  by_cases minus : c = '-'
  · subst minus
    exact Or.inr ⟨rfl, first h⟩
  · rw [number_of_ne minus] at h
    obtain ⟨d, more, hd, digit⟩ := first h
    cases hd
    exact Or.inl digit

/-! ### Words -/

theorem word?_append {cs : List Char} {v : Value} (h : word? cs = some (v, [])) :
    word? (cs ++ k) = some (v, k) := by
  obtain ⟨entry, hentry, h⟩ := List.exists_of_findSome?_eq_some h
  obtain ⟨rest, hrest, h⟩ := Option.map_eq_some_iff.1 h
  cases h
  obtain rfl : cs = entry.1.toList := by
    have := Entity.isPrefixOf?_eq_some_iff.1 hrest
    rwa [List.append_nil] at this
  simp only [words, List.mem_cons, List.not_mem_nil, or_false] at hentry
  rcases hentry with rfl | rfl | rfl | rfl | rfl | rfl <;> rfl

/-- No word begins as a number does. -/
theorem word?_of_number {c : Char} {rest after : List Char} {v : Value}
    (h : number (c :: rest) = .ok (v, after)) : word? (c :: rest) = none := by
  rw [Option.eq_none_iff_forall_ne_some]
  intro found hfound
  obtain ⟨entry, hentry, hfound⟩ := List.exists_of_findSome?_eq_some hfound
  obtain ⟨rest', hrest, -⟩ := Option.map_eq_some_iff.1 hfound
  have front := Entity.isPrefixOf?_eq_some_iff.1 hrest
  simp only [words, List.mem_cons, List.not_mem_nil, or_false] at hentry
  rcases digit_of_number h with digit | ⟨rfl, d, more, rfl, digit⟩
  · rcases hentry with rfl | rfl | rfl | rfl | rfl | rfl <;> cases front <;>
      exact absurd digit (by decide)
  · rcases hentry with rfl | rfl | rfl | rfl | rfl | rfl <;> cases front
    exact absurd digit (by decide)

/-! ### Strings -/

variable {half : Option Char}

theorem code?_append {cs rest : List Char} {n : Nat} (h : code? cs = some (n, rest)) :
    code? (cs ++ k) = some (n, rest ++ k) := by
  unfold code? at h
  split at h
  next a b c d e rest =>
    show code? (a :: b :: c :: d :: e :: (rest ++ k)) = _
    simp only [code?, Option.bind_eq_bind, Option.bind_eq_some_iff, Option.pure_def,
      Option.some.injEq] at h ⊢
    obtain ⟨w, hw, x, hx, y, hy, z, hz, ⟨⟩⟩ := h
    exact ⟨w, hw, x, hx, y, hy, z, hz, rfl⟩
  next => cases h

/-- Does the text break off inside of an escape? -/
def BreaksOff (cs : List Char) : Prop :=
  cs = [] ∨ cs = ['\\'] ∨ ∃ more, cs = '\\' :: 'u' :: more ∧ more.length < 5

/-- No escape is begun by what follows, unless the text breaks off inside of it. -/
theorem not_code_append {cs : List Char} (single : ∀ more, cs ≠ '\\' :: 'u' :: more)
    (whole : ¬BreaksOff cs) (more : List Char) : cs ++ k ≠ '\\' :: 'u' :: more := by
  intro together
  -- Two characters at least are there, and they are not those of an escape.
  rcases cs with _ | ⟨a, _ | ⟨b, cs⟩⟩
  · exact whole (Or.inl rfl)
  · cases together
    exact whole (Or.inr (Or.inl rfl))
  · cases together
    exact single cs rfl

theorem charOfCode_of_eq_ok {start : List Char} {n : Nat} {x : Char}
    (h : charOfCode half start n = .ok x) (start' : List Char) :
    charOfCode half start' n = .ok x := by
  unfold charOfCode at h ⊢
  split at h
  next pair =>
    rw [if_pos pair]
    cases half with
    | none => cases h
    | some c => exact h
  next single =>
    rw [if_neg single]
    exact h

/-- What a code on its own stands for does not depend on what follows. -/
theorem charOfCode_append {start rest after : List Char} {n : Nat} {x : Char}
    (h : ((charOfCode half start n).map fun c => (c, rest)) = .ok (x, after))
    (start' : List Char) :
    after = rest ∧
      ((charOfCode half start' n).map fun c => (c, rest ++ k)) = .ok (x, after ++ k) := by
  cases found : charOfCode half start n with
  | error t =>
    rw [found] at h
    cases h
  | ok c =>
    rw [found] at h
    cases h
    rw [charOfCode_of_eq_ok found start']
    exact ⟨rfl, rfl⟩

/-- What a code stands for does not depend on what follows, unless the text breaks off inside of the
next one. -/
theorem codeChar_append {start cs after : List Char} {x : Char}
    (h : codeChar half start cs = .ok (x, after)) (start' : List Char) :
    codeChar half start' (cs ++ k) = .ok (x, after ++ k) ∨ BreaksOff after := by
  unfold codeChar at h
  split at h
  next => cases h
  next n rest hcode =>
    unfold codeChar
    rw [code?_append hcode]
    dsimp only at h ⊢
    split at h
    next high =>
      rw [if_pos high]
      split at h
      next more =>
        split at h
        next short =>
          obtain ⟨rfl, -⟩ := charOfCode_append (k := k) h start'
          exact Or.inr (Or.inr (Or.inr ⟨more, rfl, short⟩))
        next long =>
          have long' : ¬(more ++ k).length < 5 := by
            rw [List.length_append]
            omega
          simp only [List.cons_append, if_neg long']
          split at h
          next => cases h
          next m rest' hcode' =>
            rw [code?_append hcode']
            dsimp only
            split at h
            next low =>
              obtain ⟨rfl, rfl⟩ := Prod.mk.inj (Except.ok.inj h)
              rw [if_pos low]
              exact Or.inl rfl
            next other =>
              rw [if_neg other]
              exact Or.inl (charOfCode_append h start').2
      next single =>
        obtain ⟨rfl, found⟩ := charOfCode_append (k := k) h start'
        by_cases cut : BreaksOff after
        · exact Or.inr cut
        · refine Or.inl ?_
          split
          next more together => exact absurd together (not_code_append single cut more)
          next => exact found
    next single =>
      rw [if_neg single]
      exact Or.inl (charOfCode_append h start').2

theorem stringChars_of_breaksOff {start cs : List Char} (h : BreaksOff cs) (fuel : Nat) :
    ∀ found, stringChars half start fuel cs ≠ .ok found := by
  intro found hfound
  cases fuel with
  | zero => cases hfound
  | succ fuel =>
    rcases h with rfl | rfl | ⟨more, rfl, short⟩
    · cases hfound
    · cases hfound
    · have none : code? more = none := by
        rcases more with _ | ⟨a, _ | ⟨b, _ | ⟨c, _ | ⟨d, _ | ⟨e, more⟩⟩⟩⟩⟩
        · rfl
        · rfl
        · rfl
        · rfl
        · rfl
        · simp only [List.length_cons] at short
          omega
      have stopped : stringChars half start (fuel + 1) ('\\' :: 'u' :: more) =
          .error ⟨.codeEscape, '\\' :: 'u' :: more⟩ := by
        show (codeChar half ('\\' :: 'u' :: more) more >>= _) = _
        rw [codeChar, none]
        rfl
      rw [stopped] at hfound
      cases hfound

theorem bind_eq_ok {α β : Type} {x : Step α} {f : α → Step β} {b : β} (h : (x >>= f) = .ok b) :
    ∃ a, x = .ok a ∧ f a = .ok b := by
  cases x with
  | error t => cases h
  | ok a => exact ⟨a, rfl, h⟩

/-- Is a string that is closed the same whatever follows? -/
def Closes (half : Option Char) (k : List Char) (start : List Char) (fuel : Nat) : Prop :=
  ∀ {cs xs after : List Char}, stringChars half start fuel cs = .ok (xs, after) →
    ∀ (start' : List Char) (fuel' : Nat), fuel ≤ fuel' →
      stringChars half start' fuel' (cs ++ k) = .ok (xs, after ++ k)

section

variable {start start' rest xs after : List Char} {fuel fuel' : Nat}

theorem stringChars_escape_iff {e : Char} (noCode : e ≠ 'u') :
    stringChars half start (fuel + 1) ('\\' :: e :: rest) = .ok (xs, after) ↔
      ∃ x ys, escapedChar? e = some x ∧ stringChars half start fuel rest = .ok (ys, after) ∧
        xs = x :: ys := by
  rw [stringChars, if_neg (by decide), if_pos rfl]
  · cases escapedChar? e with
    | none =>
      constructor
      · intro h
        cases h
      · rintro ⟨_, _, ⟨⟩, -⟩
    | some x =>
      constructor
      · intro h
        obtain ⟨⟨ys, after₁⟩, hys, h⟩ := bind_eq_ok h
        cases h
        exact ⟨x, ys, rfl, hys, rfl⟩
      · rintro ⟨_, ys, ⟨⟩, hys, rfl⟩
        show (stringChars half start fuel rest >>= _) = _
        rw [hys]
        rfl
  · exact noCode

/-- An escape is read, and then the rest of the string. -/
theorem stringChars_escape_append (ih : Closes half k start fuel) (le : fuel ≤ fuel')
    (h : stringChars half start (fuel + 1) ('\\' :: rest) = .ok (xs, after)) :
    stringChars half start' (fuel' + 1) ('\\' :: (rest ++ k)) = .ok (xs, after ++ k) := by
  cases rest with
  | nil => cases h
  | cons e more =>
    by_cases code : e = 'u'
    · subst code
      obtain ⟨⟨x, after₁⟩, hx, h⟩ := bind_eq_ok h
      obtain ⟨⟨xs₁, after₂⟩, hxs, h⟩ := bind_eq_ok h
      cases h
      rcases codeChar_append hx ('\\' :: 'u' :: (more ++ k)) with code | cut
      · show (codeChar half ('\\' :: 'u' :: (more ++ k)) (more ++ k) >>= _) = _
        rw [code]
        show (stringChars half start' fuel' (after₁ ++ k) >>= _) = _
        rw [ih hxs start' fuel' le]
        rfl
      · exact absurd hxs (stringChars_of_breaksOff cut fuel _)
    · obtain ⟨x, ys, hx, hys, rfl⟩ := (stringChars_escape_iff code).1 h
      exact (stringChars_escape_iff code).2 ⟨x, ys, hx, ih hys start' fuel' le, rfl⟩

end

/-- **A string that is closed is the same whatever follows.** -/
theorem stringChars_append {start : List Char} (fuel : Nat) : Closes half k start fuel := by
  induction fuel with
  | zero =>
    intro cs xs after h
    cases h
  | succ fuel ih =>
    intro cs xs after h start' fuel' le
    obtain ⟨more, rfl⟩ : ∃ n, fuel' = n + 1 := ⟨fuel' - 1, by omega⟩
    have le' : fuel ≤ more := by omega
    cases cs with
    | nil => cases h
    | cons c rest =>
      by_cases escape : c = '\\'
      · subst escape
        exact stringChars_escape_append ih le' h
      · rw [List.cons_append]
        unfold stringChars at h ⊢
        rw [if_neg escape] at h ⊢
        split at h
        next quote =>
          cases h
          rw [if_pos quote]
        next noQuote =>
          rw [if_neg noQuote]
          split at h
          next => cases h
          next shown =>
            obtain ⟨⟨xs₁, after₁⟩, hxs, h⟩ := bind_eq_ok h
            cases h
            rw [if_neg shown, ih hxs start' more le']
            rfl

theorem string_append {rest after : List Char} {x : String}
    (h : string half ('"' :: rest) rest = .ok (x, after)) :
    string half ('"' :: (rest ++ k)) (rest ++ k) = .ok (x, after ++ k) := by
  obtain ⟨⟨xs, after₁⟩, hxs, h⟩ := bind_eq_ok h
  cases h
  have longer : ('"' :: rest).length ≤ ('"' :: (rest ++ k)).length := by
    simp only [List.length_cons, List.length_append]
    omega
  rw [string, stringChars_append _ hxs _ _ longer]
  rfl

/-! ### Strings, numbers and words alike -/

/-- Is this the text of a value without parts: a string, a number or a word?  Where no list and no map
may stand, nothing else is read. -/
def IsScalar (cs : List Char) (v : Value) : Prop := value none 1 0 cs = .ok (v, [])

/-- What begins with no quote and no bracket is a word or a number. -/
theorem value_eq {c : Char} (quote : c ≠ '"') (map : c ≠ '\x7b') (list : c ≠ '[')
    (fuel levels : Nat) (rest : List Char) :
    value none (fuel + 1) levels (c :: rest) = match word? (c :: rest) with
      | some found => .ok found
      | none => number (c :: rest) := by
  rw [value.eq_def]
  dsimp only
  split
  next same => exact absurd (List.cons.inj same).1 quote
  next same => exact absurd (List.cons.inj same).1 map
  next same => exact absurd (List.cons.inj same).1 list
  next => rfl

/-- **A value without parts is read the same whatever follows, at every level.** -/
theorem value_of_scalar {cs : List Char} {v : Value} (h : IsScalar cs v) (hk : Ends k)
    (fuel levels : Nat) : value none (fuel + 1) levels (cs ++ k) = .ok (v, k) := by
  cases cs with
  | nil => cases h
  | cons c rest =>
    by_cases quote : c = '"'
    · subst quote
      obtain ⟨⟨x, after⟩, hx, h⟩ := bind_eq_ok h
      cases h
      show (string none ('"' :: (rest ++ k)) (rest ++ k) >>= _) = _
      rw [string_append hx]
      rfl
    · by_cases map : c = '\x7b'
      · subst map
        cases h
      · by_cases list : c = '['
        · subst list
          cases h
        · rw [IsScalar, value_eq quote map list] at h
          rw [List.cons_append, value_eq quote map list, ← List.cons_append]
          split at h
          next found hword =>
            cases h
            rw [word?_append hword]
          next noWord =>
            have number := number_append hk h
            rw [List.cons_append] at number ⊢
            rw [word?_of_number number]
            exact number

/-- A value without parts does not begin with a blank. -/
theorem isSpace_of_scalar {c : Char} {rest : List Char} {v : Value} (h : IsScalar (c :: rest) v) :
    isSpace c = false := by
  rw [Bool.eq_false_iff]
  intro space
  have blank : c ∈ [' ', '\t', '\n', '\r'] := by
    simp only [isSpace, Bool.or_eq_true, decide_eq_true_eq] at space
    rcases space with ((rfl | rfl) | rfl) | rfl <;> decide
  simp only [List.mem_cons, List.not_mem_nil, or_false] at blank
  rcases blank with rfl | rfl | rfl | rfl <;> cases h

theorem not_text_of_word {cs after : List Char} {v : Value} (h : word? cs = some (v, after)) :
    ∀ s, v ≠ .text s := by
  obtain ⟨entry, hentry, h⟩ := List.exists_of_findSome?_eq_some h
  obtain ⟨rest, -, h⟩ := Option.map_eq_some_iff.1 h
  cases h
  simp only [words, List.mem_cons, List.not_mem_nil, or_false] at hentry
  rintro s
  rcases hentry with rfl | rfl | rfl | rfl | rfl | rfl <;> exact Value.noConfusion

theorem not_text_of_number {c : Char} {rest after : List Char} {v : Value}
    (h : number (c :: rest) = .ok (v, after)) : ∀ s, v ≠ .text s := by
  have unsigned : ∀ {negative : Bool} {body start : List Char},
      unsigned negative body start = .ok (v, after) → ∀ s, v ≠ .text s := by
    intro negative body start h s
    unfold Json.unsigned at h
    dsimp only at h
    split at h
    · cases h
    · split at h
      · split at h
        · cases h
        · cases h
          exact Value.noConfusion
      · cases h
        exact Value.noConfusion
  by_cases minus : c = '-'
  · subst minus
    exact unsigned h
  · rw [number_of_ne minus] at h
    exact unsigned h

theorem quote_of_scalar {c : Char} {rest : List Char} {s : String}
    (h : IsScalar (c :: rest) (.text s)) : c = '"' := by
  by_contra quote
  by_cases map : c = '\x7b'
  · subst map
    cases h
  · by_cases list : c = '['
    · subst list
      cases h
    · rw [IsScalar, value_eq quote map list] at h
      split at h
      next found hword =>
        cases h
        exact not_text_of_word hword s rfl
      next => exact not_text_of_number h s rfl

/-- Do the characters stand for themselves in a string? -/
def Plain (cs : List Char) : Prop := ∀ c ∈ cs, c ≠ '"' ∧ c ≠ '\\' ∧ ¬c.toNat ≤ 0x1f

instance (cs : List Char) : Decidable (Plain cs) := List.decidableBAll _ cs

theorem stringChars_of_plain {start cs : List Char} (plain : Plain cs) :
    ∀ {fuel : Nat}, cs.length < fuel → stringChars half start fuel (cs ++ ['"']) = .ok (cs, []) := by
  induction cs with
  | nil =>
    intro fuel lt
    obtain ⟨n, rfl⟩ : ∃ n, fuel = n + 1 := ⟨fuel - 1, by omega⟩
    rfl
  | cons c rest ih =>
    intro fuel lt
    obtain ⟨n, rfl⟩ : ∃ n, fuel = n + 1 := ⟨fuel - 1, by omega⟩
    obtain ⟨quote, escape, shown⟩ := plain c List.mem_cons_self
    rw [List.cons_append]
    unfold stringChars
    rw [if_neg quote, if_neg escape, if_neg shown,
      ih (fun c hc => plain c (List.mem_cons_of_mem _ hc)) (Nat.lt_of_succ_lt_succ lt)]
    rfl

/-- A text of such characters is written between quotes. -/
theorem isScalar_of_plain {s : String} (plain : Plain s.toList) :
    IsScalar ('"' :: (s.toList ++ ['"'])) (.text s) := by
  have room : s.toList.length < ('"' :: (s.toList ++ ['"'])).length := by
    simp only [List.length_cons, List.length_append]
    omega
  show (string none ('"' :: (s.toList ++ ['"'])) (s.toList ++ ['"']) >>= _) = _
  rw [string, stringChars_of_plain plain room]
  show Except.ok (Value.text (String.ofList s.toList), _) = _
  rw [String.ofList_toList]

end StorageMetadata.Json
