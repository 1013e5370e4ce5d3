import StorageMetadata.Proofs.Json.Reader

/-!
# The form of a document and its texts

Whether a text has the form of a document does not depend on what is put for half of a pair of code
units on its own.  A step that puts nothing there goes as one that puts something (`Follows`), up to
the first such half, and there it stops:

    read levels cs = check levels cs ∨ ∃ rest, read levels cs = .error ⟨.loneHalf, rest⟩.

The induction is on the fuel, over the three steps for a value, for entries and for items at once.
-/

namespace StorageMetadata.Json

/-- Does one step go as another, unless it stops at half of a pair on its own? -/
def Follows {α : Type} (x y : Step α) : Prop := x = y ∨ ∃ rest, x = .error ⟨.loneHalf, rest⟩

theorem follows_rfl {α : Type} (x : Step α) : Follows x x := Or.inl rfl

theorem Follows.bind {α β : Type} {x y : Step α} {f g : α → Step β} (h : Follows x y)
    (hf : ∀ a, Follows (f a) (g a)) : Follows (x >>= f) (y >>= g) := by
  rcases h with rfl | ⟨rest, rfl⟩
  · cases x with
    | error t => exact follows_rfl _
    | ok a => exact hf a
  · exact Or.inr ⟨rest, rfl⟩

/-! ### Strings -/

variable (half : Option Char)

theorem follows_charOfCode (start rest : List Char) (n : Nat) :
    Follows ((charOfCode none start n).map fun c => (c, rest))
      ((charOfCode half start n).map fun c => (c, rest)) := by
  unfold charOfCode
  split
  next => exact Or.inr ⟨start, rfl⟩
  next => exact follows_rfl _

theorem follows_codeChar (start cs : List Char) :
    Follows (codeChar none start cs) (codeChar half start cs) := by
  unfold codeChar
  cases code? cs with
  | none => exact follows_rfl _
  | some found =>
    obtain ⟨n, rest⟩ := found
    have alone := follows_charOfCode half start rest n
    dsimp only
    split
    next =>
      split
      next =>
        split
        next => exact alone
        next =>
          split
          next => exact follows_rfl _
          next =>
            split
            next => exact follows_rfl _
            next => exact alone
      next => exact alone
    next => exact alone

theorem follows_stringChars (start : List Char) (fuel : Nat) : ∀ cs,
    Follows (stringChars none start fuel cs) (stringChars half start fuel cs) := by
  induction fuel with
  | zero => exact fun cs => follows_rfl _
  | succ fuel ih =>
    intro cs
    cases cs with
    | nil => exact follows_rfl _
    | cons c rest =>
      have plain : ∀ c more, Follows
          (stringChars none start fuel more >>= fun found => pure (c :: found.1, found.2))
          (stringChars half start fuel more >>= fun found => pure (c :: found.1, found.2)) :=
        fun c more => (ih more).bind fun _ => follows_rfl _
      unfold stringChars
      split
      next => exact follows_rfl _
      next =>
        split
        next =>
          split
          next => exact follows_rfl _
          next more => exact (follows_codeChar half _ more).bind fun found => plain _ _
          next e more _ =>
            cases escapedChar? e with
            | none => exact follows_rfl _
            | some x => exact plain x more
        next =>
          split
          next => exact follows_rfl _
          next => exact plain c rest

theorem follows_string (start rest : List Char) :
    Follows (string none start rest) (string half start rest) :=
  (follows_stringChars half start _ rest).bind fun _ => follows_rfl _

/-! ### Values -/

/-- Do the three steps that may go on inwards follow those that put something, with the given
fuel? -/
structure Following (fuel : Nat) : Prop where
  value : ∀ levels cs, Follows (value none fuel levels cs) (value half fuel levels cs)
  members : ∀ levels before cs,
    Follows (members none fuel levels before cs) (members half fuel levels before cs)
  items : ∀ levels before cs,
    Follows (items none fuel levels before cs) (items half fuel levels before cs)

variable {half} {fuel : Nat}

theorem follows_value (h : Following half fuel) (levels : Nat) (cs : List Char) :
    Follows (value none (fuel + 1) levels cs) (value half (fuel + 1) levels cs) := by
  unfold value
  split
  next rest => exact (follows_string half _ rest).bind fun _ => follows_rfl _
  next rest =>
    split
    next => exact follows_rfl _
    next => exact follows_rfl _
    next => exact h.members _ _ _
  next rest =>
    split
    next => exact follows_rfl _
    next => exact follows_rfl _
    next => exact h.items _ _ _
  next => exact follows_rfl _

theorem follows_members (h : Following half fuel) (levels : Nat) (before : List (String × Value))
    (cs : List Char) : Follows (members none (fuel + 1) levels before cs)
      (members half (fuel + 1) levels before cs) := by
  unfold members
  split
  next rest =>
    refine (follows_string half _ rest).bind fun found => ?_
    dsimp only
    split
    next =>
      refine (h.value levels _).bind fun found => ?_
      split
      next => exact follows_rfl _
      next => exact h.members _ _ _
      next => exact follows_rfl _
    next => exact follows_rfl _
  next => exact follows_rfl _

theorem follows_items (h : Following half fuel) (levels : Nat) (before : List Value)
    (cs : List Char) : Follows (items none (fuel + 1) levels before cs)
      (items half (fuel + 1) levels before cs) := by
  unfold items
  refine (h.value levels cs).bind fun found => ?_
  dsimp only
  split
  next => exact follows_rfl _
  next => exact h.items _ _ _
  next => exact follows_rfl _

theorem following (half : Option Char) : ∀ fuel : Nat, Following half fuel := by
  intro fuel
  induction fuel with
  | zero => exact ⟨fun _ _ => follows_rfl _, fun _ _ _ => follows_rfl _, fun _ _ _ => follows_rfl _⟩
  | succ fuel ih => exact ⟨follows_value ih, follows_members ih, follows_items ih⟩

theorem follows_readWith (half : Option Char) (levels : Nat) (cs : List Char) :
    Follows (readWith none levels cs) (readWith half levels cs) := by
  unfold readWith
  split
  next => exact follows_rfl _
  next => exact ((following half _).value levels _).bind fun _ => follows_rfl _

/-! ### Documents -/

/-- **A text that has the form of a document is read as that document, or it has half of a pair on its
own in it.** -/
theorem read_of_check {levels : Nat} {cs : List Char} {v : Value} (h : check levels cs = .ok v) :
    read levels cs = .ok v ∨ ∃ rest, read levels cs = .error ⟨.loneHalf, rest⟩ := by
  rw [← h]
  exact follows_readWith _ levels cs

/-- A text without half of a pair on its own is checked as it is read. -/
theorem check_eq_read {levels : Nat} {cs : List Char}
    (h : ∀ rest, read levels cs ≠ .error ⟨.loneHalf, rest⟩) : check levels cs = read levels cs := by
  rcases follows_readWith (some '\ufffd') levels cs with same | ⟨rest, stopped⟩
  · exact same.symm
  · exact absurd stopped (h rest)

/-- A document that is read has the form of one. -/
theorem check_of_read {levels : Nat} {cs : List Char} {v : Value} (h : read levels cs = .ok v) :
    check levels cs = .ok v := by
  rw [check_eq_read, h]
  rw [h]
  rintro _ ⟨⟩

/-- Where lists and maps are too deep within each other, they are so whatever the texts are. -/
theorem check_of_tooDeep {levels : Nat} {cs rest : List Char}
    (h : read levels cs = .error ⟨.tooDeep, rest⟩) : check levels cs = .error ⟨.tooDeep, rest⟩ := by
  rw [check_eq_read, h]
  rw [h]
  rintro _ ⟨⟩

/-- Where something is put for half of a pair, reading does not stop there. -/
theorem check_ne_loneHalf (levels : Nat) (cs rest : List Char) :
    check levels cs ≠ .error ⟨.loneHalf, rest⟩ := by
  intro h
  cases (((readWith_spec (some '\ufffd') levels cs).2 _ h).alone rfl).1

end StorageMetadata.Json
