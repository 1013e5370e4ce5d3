import Mathlib.Data.List.Chain
import StorageMetadata.Proofs.CrossOrigin.Rule

/-!
# How the name of a method may be spelled

A method is looked up by the upper case of a text.  `Text.InCapitals` says which texts have a given
word for their upper case: its letters may stand in either case, and beyond ASCII there are a letter
for `I`, a letter for `S` and two ligatures for `ST`.  That is all there is for the methods,

    read (.text s) = .ok m ↔ InCapitals s.toList m.name.toList,

because none of their names has an `F` or a letter twice in a row: the other ligatures begin with an
`F`, and the sharp `s` stands for two letters.
-/

namespace StorageMetadata

namespace Text

/-- Is this the word that the characters spell, whatever the case of its letters is? -/
inductive InCapitals : List Char → List Char → Prop
  | nil : InCapitals [] []
  | letter {cs word : List Char} (c : Char) (rest : InCapitals cs word) :
    InCapitals (c :: cs) (c.toUpper :: word)
  | dotless {cs word : List Char} (rest : InCapitals cs word) :
    InCapitals ('ı' :: cs) ('I' :: word)
  | long {cs word : List Char} (rest : InCapitals cs word) :
    InCapitals ('ſ' :: cs) ('S' :: word)
  | ligature {cs word : List Char} {c : Char} (joins : c = 'ﬅ' ∨ c = 'ﬆ')
      (rest : InCapitals cs word) : InCapitals (c :: cs) ('S' :: 'T' :: word)

/-! ### The upper case of a character -/

theorem upperCase_ascii : ∀ n < 128, upperCase (Char.ofNat n) = [(Char.ofNat n).toUpper] := by
  decide

theorem upperCase_eq_toUpper {c : Char} (ascii : c.toNat < 128) : upperCase c = [c.toUpper] := by
  have found := upperCase_ascii c.toNat ascii
  rwa [Char.ofNat_toNat] at found

theorem toUpper_eq_self {c : Char} (wide : 128 ≤ c.toNat) : c.toUpper = c := by
  apply dif_neg
  rintro ⟨-, high⟩
  have last : c.toNat ≤ 122 := high
  omega

/-- Only a character of ASCII has a capital of ASCII for its other case. -/
theorem lt_of_toUpper {c : Char} (capital : c.toUpper ≤ 'Z') : c.toNat < 128 := by
  by_contra wide
  rw [toUpper_eq_self (Nat.le_of_not_lt wide)] at capital
  have last : c.toNat ≤ 90 := capital
  omega

/-- What the upper case of a character beyond ASCII begins with. -/
theorem upperCase_wide {c : Char} (wide : 128 ≤ c.toNat) :
    upperCase c = [c] ∨ (c = 'ı' ∧ upperCase c = ['I']) ∨ (c = 'ſ' ∧ upperCase c = ['S']) ∨
      ((c = 'ﬅ' ∨ c = 'ﬆ') ∧ upperCase c = ['S', 'T']) ∨ upperCase c = ['S', 'S'] ∨
      ∃ more, upperCase c = 'F' :: more := by
  have is : ∀ {n : Nat}, c.toNat = n → c = Char.ofNat n := by
    rintro _ rfl
    rw [Char.ofNat_toNat]
  have notSmall : ¬('a' ≤ c ∧ c ≤ 'z') := by
    rintro ⟨-, high⟩
    have last : c.toNat ≤ 122 := high
    omega
  unfold upperCase
  rw [if_neg notSmall]
  split
  next => simp
  next dotless => exact Or.inr (Or.inl ⟨is dotless, rfl⟩)
  next long => exact Or.inr (Or.inr (Or.inl ⟨is long, rfl⟩))
  next => simp
  next => simp
  next => simp
  next => simp
  next => simp
  next joined => exact Or.inr (Or.inr (Or.inr (Or.inl ⟨Or.inl (is joined), rfl⟩)))
  next joined => exact Or.inr (Or.inr (Or.inr (Or.inl ⟨Or.inr (is joined), rfl⟩)))
  next => exact Or.inl rfl

/-! ### The upper case of a text -/

/-- A word in capitals without an `F` and without a letter twice in a row. -/
structure Plain (word : List Char) : Prop where
  capital : ∀ d ∈ word, d ≤ 'Z'
  no_f : 'F' ∉ word
  varied : word.IsChain (· ≠ ·)

theorem Plain.append_right {front back : List Char} (h : Plain (front ++ back)) : Plain back where
  capital d hd := h.capital d (List.mem_append_right front hd)
  no_f hd := h.no_f (List.mem_append_right front hd)
  varied := h.varied.right_of_append

theorem InCapitals.flatMap_upperCase {cs word : List Char} (h : InCapitals cs word)
    (capital : ∀ d ∈ word, d ≤ 'Z') : cs.flatMap upperCase = word := by
  induction h with
  | nil => rfl
  | letter c rest ih =>
    obtain ⟨first, others⟩ := List.forall_mem_cons.1 capital
    rw [List.flatMap_cons, upperCase_eq_toUpper (lt_of_toUpper first), ih others]
    rfl
  | dotless rest ih =>
    rw [List.flatMap_cons, ih (List.forall_mem_cons.1 capital).2]
    rfl
  | long rest ih =>
    rw [List.flatMap_cons, ih (List.forall_mem_cons.1 capital).2]
    rfl
  | ligature joins rest ih =>
    rw [List.flatMap_cons, ih fun d hd => capital d (by simp [hd])]
    rcases joins with rfl | rfl
    · rfl
    · rfl

theorem inCapitals_flatMap_upperCase {cs : List Char} (plain : Plain (cs.flatMap upperCase)) :
    InCapitals cs (cs.flatMap upperCase) := by
  induction cs with
  | nil => exact .nil
  | cons c cs ih =>
    rw [List.flatMap_cons] at plain ⊢
    have rest := ih plain.append_right
    by_cases ascii : c.toNat < 128
    · rw [upperCase_eq_toUpper ascii]
      exact .letter c rest
    · have wide : 128 ≤ c.toNat := Nat.le_of_not_lt ascii
      rcases upperCase_wide wide with same | ⟨rfl, _⟩ | ⟨rfl, _⟩ | ⟨joins, both⟩ | sharp | ⟨more, f⟩
      · -- The character would be a letter of the word itself.
        rw [same] at plain
        have last : c.toNat ≤ 90 := plain.capital c (by simp)
        omega
      · exact .dotless rest
      · exact .long rest
      · rw [both]
        exact .ligature joins rest
      · rw [sharp] at plain
        exact absurd rfl plain.varied.rel
      · rw [f] at plain
        exact absurd List.mem_cons_self plain.no_f

/-- **A plain word is the upper case of what spells it.** -/
theorem flatMap_upperCase_eq_iff {cs word : List Char} (plain : Plain word) :
    cs.flatMap upperCase = word ↔ InCapitals cs word := by
  constructor
  · rintro rfl
    exact inCapitals_flatMap_upperCase plain
  · intro h
    exact h.flatMap_upperCase plain.capital

/-- The characters beyond ASCII that stand for capitals of a plain word. -/
def wideLetters : List Char := ['ı', 'ſ', 'ﬅ', 'ﬆ']

/-- Without those characters a word is spelled letter by letter. -/
theorem inCapitals_iff_map_toUpper {cs word : List Char} (narrow : ∀ c ∈ cs, c ∉ wideLetters) :
    InCapitals cs word ↔ cs.map Char.toUpper = word := by
  constructor
  · intro h
    induction h with
    | nil => rfl
    | letter c rest ih => rw [List.map_cons, ih (List.forall_mem_cons.1 narrow).2]
    | dotless => exact absurd (by decide) (narrow 'ı' List.mem_cons_self)
    | long => exact absurd (by decide) (narrow 'ſ' List.mem_cons_self)
    | @ligature _ _ c joins =>
      apply absurd _ (narrow c List.mem_cons_self)
      rcases joins with rfl | rfl
      · decide
      · decide
  · rintro rfl
    induction cs with
    | nil => exact .nil
    | cons c cs ih => exact .letter c (ih (List.forall_mem_cons.1 narrow).2)

end Text

namespace Method

open StorageMetadata.Text

theorem plain_name (m : Method) : Plain m.name.toList := by
  constructor
  · cases m <;> simp [name]
  · cases m <;> decide
  · cases m <;> decide

theorem ofName?_eq_some_iff {s : String} {m : Method} : ofName? s = some m ↔ upper s = m.name := by
  constructor
  · intro found
    exact (name_of_ofName? found).symm
  · intro named
    have own : m.name = upper m.name := name_of_ofName? (ofName?_name m)
    rw [← ofName?_name m, ofName?, ofName?, ← own, named]

/-- **A method is found by its letters.** -/
theorem ofName?_eq_some_iff_inCapitals {s : String} {m : Method} :
    ofName? s = some m ↔ InCapitals s.toList m.name.toList := by
  rw [ofName?_eq_some_iff, ← flatMap_upperCase_eq_iff (plain_name m), upper, ← String.toList_inj,
    String.toList_ofList]

/-- **The spellings of a method are the texts that it is read from**; any other text is refused, and
told.  A text without the characters beyond ASCII that stand for capitals has to have the letters of
the name one by one. -/
theorem read_text_by_letters (s : String) :
    (∀ m, read (.text s) = .ok m ↔ InCapitals s.toList m.name.toList) ∧
    ((∀ m : Method, ¬InCapitals s.toList m.name.toList) →
      read (.text s) = .error (.unknownMethod (.text s) (some .unknownName))) ∧
    ((∀ c ∈ s.toList, c ∉ wideLetters) →
      ∀ m : Method, InCapitals s.toList m.name.toList ↔
        s.toList.map Char.toUpper = m.name.toList) := by
  refine ⟨?found, ?refused, ?narrow⟩
  case found =>
    intro m
    rw [← ofName?_eq_some_iff_inCapitals, read]
    cases ofName? s with
    | none => simp
    | some n => simp
  case refused =>
    intro unspelled
    have unknown : ofName? s = none := by
      rw [Option.eq_none_iff_forall_ne_some]
      intro m found
      exact unspelled m (ofName?_eq_some_iff_inCapitals.1 found)
    rw [read, unknown]
  case narrow =>
    intro narrow m
    exact inCapitals_iff_map_toUpper narrow

/-- Spellings of three methods, one with the ligature, and a text that lacks only a letter. -/
theorem read_varied_spellings :
    read (.text "pOﬆ") = .ok .post ∧ read (.text "optıonſ") = .ok .options ∧
      read (.text "Delete") = .ok .delete ∧
      read (.text "delet") = .error (.unknownMethod (.text "delet") (some .unknownName)) := by
  have delet : ∀ m : Method, ¬InCapitals "delet".toList m.name.toList := by
    have narrow : ∀ c ∈ "delet".toList, c ∉ wideLetters := by simp [wideLetters]
    intro m
    rw [(read_text_by_letters "delet").2.2 narrow m]
    cases m <;> decide
  refine ⟨(read_text_by_letters _).1 .post |>.2 ?_, (read_text_by_letters _).1 .options |>.2 ?_,
    (read_text_by_letters _).1 .delete |>.2 ?_, (read_text_by_letters _).2.1 delet⟩
  · exact .letter 'p' (.letter 'O' (.ligature (Or.inr rfl) .nil))
  · exact .letter 'o' (.letter 'p' (.letter 't' (.dotless (.letter 'o' (.letter 'n' (.long .nil))))))
  · rw [(read_text_by_letters "Delete").2.2 (by simp [wideLetters]) .delete]
    decide

/-- **The letters of ASCII are not all.**  The long `s` in the middle of a word is no other letter of
ASCII than itself, and yet the word names a method. -/
theorem read_long_s : ¬∀ (s : String) (m : Method),
    read (.text s) = .ok m ↔ s.toList.map Char.toUpper = m.name.toList := by
  intro every
  have letters := (every "poſt" .post).1 rfl
  revert letters
  decide

end Method

end StorageMetadata
