import Mathlib.Data.List.Nodup
import StorageMetadata.Json.Reader
import StorageMetadata.Proofs.Access.Entity
import StorageMetadata.Proofs.Value.Kinds

/-!
# What the reader of documents leaves

Every step takes its part off the front of the text.  So what is left after a value is an end of the
text, and so is the place where reading stops; and a value that was read is one of a document.

Three of the reasons to stop are no mistakes of form (`Problem.IsForm`): a number with more digits
than are read, lists and maps too deep within each other, and half of a pair of code units on its own.
`Stops` tells what the text has to hold for that: the digits or the escape at the place where reading
stopped, and more opening brackets than there may be levels.  The induction is on the fuel, over the three steps for a value, for entries and for items at once
(`Sound`); the levels left and the brackets still to come are compared at every step inwards.
-/

namespace StorageMetadata

open StorageMetadata.Text

namespace Value

/-- Is the value one of a document: lists and maps of values of the simple kinds, with no integer of
more digits than are read and with no key twice in a map? -/
inductive IsDocument : Value → Prop
  | null : IsDocument .null
  | bool (b : Bool) : IsDocument (.bool b)
  | int {n : Int} : Decimal.Fits n → IsDocument (.int n)
  | float (x : Binary64) : IsDocument (.float x)
  | text (s : String) : IsDocument (.text s)
  | list {items : List Value} : (∀ v ∈ items, IsDocument v) → IsDocument (.list items)
  | map {es : List (String × Value)} :
    (es.map Prod.fst).Nodup → (∀ e ∈ es, IsDocument e.2) → IsDocument (.map es)

theorem mem_putEntry {key : String} {v : Value} {es : List (String × Value)} {e : String × Value}
    (h : e ∈ putEntry key v es) : e = (key, v) ∨ e ∈ es := by
  induction es with
  | nil => exact Or.inl (List.mem_singleton.1 h)
  | cons first rest ih =>
    obtain ⟨k, w⟩ := first
    unfold putEntry at h
    split at h
    next same =>
      rcases List.mem_cons.1 h with rfl | h
      · exact Or.inl (by rw [same])
      · exact Or.inr (List.mem_cons_of_mem _ h)
    next =>
      rcases List.mem_cons.1 h with rfl | h
      · exact Or.inr List.mem_cons_self
      · exact (ih h).imp_right (List.mem_cons_of_mem _)

theorem keys_putEntry (key : String) (v : Value) (es : List (String × Value)) :
    (putEntry key v es).map Prod.fst =
      if key ∈ es.map Prod.fst then es.map Prod.fst else es.map Prod.fst ++ [key] := by
  induction es with
  | nil => simp [putEntry]
  | cons first rest ih =>
    obtain ⟨k, w⟩ := first
    by_cases same : k = key
    · simp [putEntry, same]
    · simp only [putEntry, if_neg same, List.map_cons, ih, List.mem_cons, Ne.symm same, false_or]
      split <;> simp

theorem IsDocument.putEntry {v : Value} {es : List (String × Value)} (h : IsDocument (.map es))
    (key : String) (hv : IsDocument v) : IsDocument (.map (putEntry key v es)) := by
  obtain ⟨nodup, each⟩ : (es.map Prod.fst).Nodup ∧ ∀ e ∈ es, IsDocument e.2 := by
    cases h with
    | map nodup each => exact ⟨nodup, each⟩
  refine .map ?_ fun e he => ?_
  · rw [keys_putEntry]
    split
    next => exact nodup
    next fresh =>
      exact List.Nodup.append nodup (List.nodup_singleton key) (List.disjoint_singleton.2 fresh)
  · rcases mem_putEntry he with rfl | he
    · exact hv
    · exact each e he

end Value

namespace Json

open StorageMetadata.Value

/-! ### Where reading stops -/

/-- Does a list or a map open with the character? -/
def opens (c : Char) : Bool := c = '[' || c = '{'

/-- Does the text begin with an integer of more digits than are read? -/
def BeginsLong (cs : List Char) : Prop :=
  ∃ sign run rest, (sign = [] ∨ sign = ['-']) ∧ cs = sign ++ run ++ rest ∧
    (∀ c ∈ run, (asciiDigit? c).isSome) ∧ Decimal.maxDigits < run.length

/-- Does the text begin with an escape for half of a pair? -/
def BeginsHalf (cs : List Char) : Prop :=
  ∃ more n rest, cs = '\\' :: 'u' :: more ∧ code? more = some (n, rest) ∧
    (isHighHalf n || isLowHalf n)

/-- Is it for its form that a text with this problem is no document? -/
def Problem.IsForm (p : Problem) : Prop := p ∉ [.tooManyDigits, .tooDeep, .loneHalf]

instance (p : Problem) : Decidable p.IsForm := inferInstanceAs (Decidable (p ∉ _))

/-- Can this be where reading a text stops, where `half` is put for half of a pair and `levels` more
lists and maps may stand within each other? -/
structure Stops (half : Option Char) (levels : Nat) (cs : List Char) (t : Trouble) : Prop where
  suffix : t.rest <:+ cs
  long : t.problem = .tooManyDigits → BeginsLong t.rest
  deep : t.problem = .tooDeep → levels < cs.countP opens
  alone : t.problem = .loneHalf → half = none ∧ BeginsHalf t.rest

variable {half : Option Char}

theorem Stops.mono {levels : Nat} {cs text : List Char} {t : Trouble} (h : Stops half levels cs t)
    (hcs : cs <:+ text) : Stops half levels text t where
  suffix := h.suffix.trans hcs
  long := h.long
  deep deep := Nat.lt_of_lt_of_le (h.deep deep) hcs.sublist.countP_le
  alone := h.alone

/-- Inside of a list or a map there is one level less. -/
theorem Stops.outwards {levels : Nat} {c : Char} {rest inside : List Char} {t : Trouble}
    (h : Stops half levels inside t) (hc : opens c) (hr : inside <:+ rest) :
    Stops half (levels + 1) (c :: rest) t where
  suffix := h.suffix.trans (hr.trans (List.suffix_cons c rest))
  long := h.long
  deep deep := by
    have inner := h.deep deep
    have more : inside.countP opens ≤ rest.countP opens := hr.sublist.countP_le
    rw [List.countP_cons_of_pos hc]
    omega
  alone := h.alone

/-- A mistake of form may be anywhere. -/
theorem stops_of_form {levels : Nat} {cs rest : List Char} {p : Problem} (h : rest <:+ cs)
    (form : p.IsForm) : Stops half levels cs ⟨p, rest⟩ where
  suffix := h
  long := by
    rintro rfl
    exact absurd form (by decide)
  deep := by
    rintro rfl
    exact absurd form (by decide)
  alone := by
    rintro rfl
    exact absurd form (by decide)

/-- Is what a step at the front of the text gives of the kind `P`, with an end of the text left, or
is what it tells a place where reading may stop? -/
def Leaves {α : Type} (half : Option Char) (levels : Nat) (cs : List Char) (P : α → Prop) :
    Step (α × List Char) → Prop
  | .ok (a, after) => P a ∧ after <:+ cs
  | .error t => Stops half levels cs t

section

variable {α β : Type} {levels : Nat} {cs text : List Char} {P : α → Prop} {Q : β → Prop}

theorem Leaves.mono {x : Step (α × List Char)} (h : Leaves half levels cs P x) (hcs : cs <:+ text) :
    Leaves half levels text P x := by
  cases x with
  | error t => exact Stops.mono h hcs
  | ok found => exact ⟨h.1, h.2.trans hcs⟩

theorem Leaves.bind {x : Step (α × List Char)} {f : α × List Char → Step (β × List Char)}
    (h : Leaves half levels text P x)
    (hf : ∀ a after, P a → after <:+ text → Leaves half levels text Q (f (a, after))) :
    Leaves half levels text Q (x >>= f) := by
  cases x with
  | error t => exact h
  | ok found => exact hf found.1 found.2 h.1 h.2

end

theorem skipSpace_suffix (cs : List Char) : skipSpace cs <:+ cs := List.dropWhile_suffix _

/-! ### Strings -/

theorem suffix_of_code? {cs rest : List Char} {n : Nat} (h : code? cs = some (n, rest)) :
    rest <:+ cs := by
  unfold code? at h
  split at h
  next a b c d e rest =>
    obtain ⟨_, -, h⟩ := Option.bind_eq_some_iff.1 h
    obtain ⟨_, -, h⟩ := Option.bind_eq_some_iff.1 h
    obtain ⟨_, -, h⟩ := Option.bind_eq_some_iff.1 h
    obtain ⟨_, -, h⟩ := Option.bind_eq_some_iff.1 h
    cases h
    exact ⟨[a, b, c, d], rfl⟩
  next => cases h

/-- A code stands for a character, or reading stops at its escape. -/
theorem leaves_charOfCode (levels : Nat) {cs rest rest' : List Char} {n : Nat}
    (hcode : code? cs = some (n, rest')) (left : rest <:+ '\\' :: 'u' :: cs) :
    Leaves half levels ('\\' :: 'u' :: cs) (fun _ => True)
      ((charOfCode half ('\\' :: 'u' :: cs) n).map fun c => (c, rest)) := by
  unfold charOfCode
  split
  next alone =>
    cases half with
    | some c => exact ⟨trivial, left⟩
    | none =>
      exact ⟨List.suffix_rfl, Problem.noConfusion, Problem.noConfusion,
        fun _ => ⟨rfl, cs, n, rest', rfl, hcode, alone⟩⟩
  next => exact ⟨trivial, left⟩

theorem leaves_codeChar (levels : Nat) (cs : List Char) :
    Leaves half levels ('\\' :: 'u' :: cs) (fun _ => True)
      (codeChar half ('\\' :: 'u' :: cs) cs) := by
  have mistake : Stops half levels ('\\' :: 'u' :: cs) ⟨.codeEscape, '\\' :: 'u' :: cs⟩ :=
    stops_of_form List.suffix_rfl (by decide)
  have inside : cs <:+ '\\' :: 'u' :: cs :=
    (List.suffix_cons 'u' cs).trans (List.suffix_cons '\\' ('u' :: cs))
  unfold codeChar
  split
  next => exact mistake
  next n rest hcode =>
    have left : rest <:+ '\\' :: 'u' :: cs := (suffix_of_code? hcode).trans inside
    have alone := @leaves_charOfCode half levels _ _ _ _ hcode left
    dsimp only
    split
    next =>
      split
      next more =>
        have left' : more <:+ '\\' :: 'u' :: cs :=
          (List.suffix_cons 'u' more).trans ((List.suffix_cons '\\' ('u' :: more)).trans left)
        split
        next => exact alone
        next =>
          split
          next => exact mistake
          next m rest' hcode' =>
            split
            next => exact ⟨trivial, (suffix_of_code? hcode').trans left'⟩
            next => exact alone
      next => exact alone
    next => exact alone

theorem leaves_stringChars (levels : Nat) {start : List Char} :
    ∀ (fuel : Nat) {cs : List Char}, cs <:+ start →
      Leaves half levels start (fun _ => True) (stringChars half start fuel cs) := by
  have unterminated : Stops half levels start ⟨.unterminatedString, start⟩ :=
    stops_of_form List.suffix_rfl (by decide)
  intro fuel
  induction fuel with
  | zero =>
    intro cs _
    exact unterminated
  | succ fuel ih =>
    intro cs h
    cases cs with
    | nil => exact unterminated
    | cons c rest =>
      have left : rest <:+ start := (List.suffix_cons c rest).trans h
      unfold stringChars
      split
      next => exact ⟨trivial, left⟩
      next =>
        split
        next =>
          split
          next => exact unterminated
          next escape _ more =>
            subst escape
            refine ((leaves_codeChar levels more).mono h).bind fun x after _ hafter => ?_
            exact (ih hafter).bind fun xs after _ hafter => ⟨trivial, hafter⟩
          next e more _ =>
            split
            next => exact stops_of_form h (by decide)
            next x _ =>
              have more' : more <:+ start := (List.suffix_cons e more).trans left
              exact (ih more').bind fun xs after _ hafter => ⟨trivial, hafter⟩
        next =>
          split
          next => exact stops_of_form h (by decide)
          next => exact (ih left).bind fun xs after _ hafter => ⟨trivial, hafter⟩

theorem leaves_string (levels : Nat) (c : Char) (rest : List Char) :
    Leaves half levels (c :: rest) (fun _ => True) (string half (c :: rest) rest) :=
  (leaves_stringChars levels _ (List.suffix_cons c rest)).bind
    fun _ _ _ hafter => ⟨trivial, hafter⟩

/-! ### Numbers -/

theorem takeDigits_spec (cs : List Char) :
    ∃ run, cs = run ++ (takeDigits cs).2 ∧ run.mapM asciiDigit? = some (takeDigits cs).1 := by
  induction cs with
  | nil => exact ⟨[], rfl, rfl⟩
  | cons c rest ih =>
    unfold takeDigits
    split
    next => exact ⟨[], rfl, rfl⟩
    next d hd =>
      obtain ⟨run, hrun, values⟩ := ih
      refine ⟨c :: run, ?_, ?_⟩
      · exact congrArg (c :: ·) hrun
      · rw [List.mapM_cons, hd, values]
        rfl

theorem takeWhole_spec (cs : List Char) :
    ∃ run, cs = run ++ (takeWhole cs).2 ∧ run.mapM asciiDigit? = some (takeWhole cs).1 := by
  unfold takeWhole
  split
  next rest => exact ⟨['0'], rfl, rfl⟩
  next => exact takeDigits_spec cs

theorem takeDigits_suffix (cs : List Char) : (takeDigits cs).2 <:+ cs := by
  obtain ⟨run, hrun, -⟩ := takeDigits_spec cs
  exact ⟨run, hrun.symm⟩

theorem takeFraction_suffix (cs : List Char) : (takeFraction cs).2 <:+ cs := by
  unfold takeFraction
  split
  next rest =>
    split
    next => exact List.suffix_rfl
    next => exact (takeDigits_suffix rest).trans (List.suffix_cons '.' rest)
  next => exact List.suffix_rfl

theorem takeSign_suffix (cs : List Char) : (Decimal.takeSign cs).2 <:+ cs := by
  unfold Decimal.takeSign
  split
  · exact List.suffix_cons _ _
  · exact List.suffix_cons _ _
  · exact List.suffix_rfl

theorem takeExponent_suffix (cs : List Char) : (takeExponent cs).2 <:+ cs := by
  unfold takeExponent
  split
  next => exact List.suffix_rfl
  next e rest =>
    split
    next =>
      dsimp only
      split
      next => exact List.suffix_rfl
      next ds after _ found =>
        have left : after <:+ (Decimal.takeSign rest).2 := by
          have := takeDigits_suffix (Decimal.takeSign rest).2
          rwa [found] at this
        exact left.trans ((takeSign_suffix rest).trans (List.suffix_cons e rest))
    next => exact List.suffix_rfl

theorem fits_signed {negative : Bool} {run : List Char} {ds : List Nat}
    (values : run.mapM asciiDigit? = some ds) (short : ds.length ≤ Decimal.maxDigits) :
    Decimal.Fits (Binary64.signed negative (Decimal.digitsValue ds)) := by
  rw [Decimal.fits_iff, Binary64.natAbs_signed]
  exact Nat.lt_of_lt_of_le (Decimal.digitsValue_lt (Decimal.lt_of_mapM_asciiDigit? values))
    (Nat.pow_le_pow_right (by decide) short)

theorem leaves_number (levels : Nat) (cs : List Char) :
    Leaves half levels cs IsDocument (number cs) := by
  have mistake : Stops half levels cs ⟨.value, cs⟩ :=
    stops_of_form List.suffix_rfl (by decide)
  unfold number
  split
  next negative body hsign =>
    obtain ⟨sign, hcs, minus⟩ : ∃ sign, cs = sign ++ body ∧ (sign = [] ∨ sign = ['-']) := by
      split at hsign
      next rest =>
        cases hsign
        exact ⟨['-'], rfl, Or.inr rfl⟩
      next =>
        cases hsign
        exact ⟨[], rfl, Or.inl rfl⟩
    obtain ⟨run, hrun, values⟩ := takeWhole_spec body
    split
    next whole rest hwhole =>
      rw [hwhole] at hrun values
      have left : rest <:+ cs := by
        rw [hcs, hrun, ← List.append_assoc]
        exact List.suffix_append _ _
      split
      next => exact mistake
      next =>
        split
        next fraction rest' hfraction =>
          have left' : rest' <:+ rest := by
            have := takeFraction_suffix rest
            rwa [hfraction] at this
          split
          next exponent after hexponent =>
            have left'' : after <:+ rest' := by
              have := takeExponent_suffix rest'
              rwa [hexponent] at this
            split
            next =>
              split
              next many =>
                obtain ⟨length, digits⟩ := Decimal.run_of_mapM_asciiDigit? values
                have long : BeginsLong cs :=
                  ⟨sign, run, rest, minus, by rw [hcs, hrun, List.append_assoc], digits,
                    length ▸ many⟩
                exact ⟨List.suffix_rfl, fun _ => long, Problem.noConfusion, Problem.noConfusion⟩
              next few =>
                exact ⟨.int (fits_signed values (Nat.le_of_not_lt few)),
                  left''.trans (left'.trans left)⟩
            next => exact ⟨.float _, left''.trans (left'.trans left)⟩

/-! ### Values -/

theorem isDocument_of_mem_words : ∀ entry ∈ words, IsDocument entry.2 := by
  simp only [words, List.forall_mem_cons]
  refine ⟨.null, .bool true, .bool false, .float _, .float _, .float _, ?_⟩
  simp

theorem leaves_word (levels : Nat) {cs : List Char} {found : Value × List Char}
    (h : word? cs = some found) : Leaves half levels cs IsDocument (.ok found) := by
  obtain ⟨entry, hentry, h⟩ := List.exists_of_findSome?_eq_some h
  obtain ⟨rest, hrest, rfl⟩ := Option.map_eq_some_iff.1 h
  exact ⟨isDocument_of_mem_words entry hentry, entry.1.toList,
    (Entity.isPrefixOf?_eq_some_iff.1 hrest).symm⟩

/-- Do the three steps that may go on inwards leave what they have to, with the given fuel? -/
structure Sound (half : Option Char) (fuel : Nat) : Prop where
  value : ∀ levels cs, Leaves half levels cs IsDocument (value half fuel levels cs)
  members : ∀ levels before cs, IsDocument (.map before) →
    Leaves half levels cs IsDocument (members half fuel levels before cs)
  items : ∀ levels before cs, (∀ v ∈ before, IsDocument v) →
    Leaves half levels cs IsDocument (items half fuel levels before cs)

/-- What is left inside of a list or a map is left of the whole. -/
theorem Leaves.outwards {levels : Nat} {c : Char} {rest inside : List Char}
    {x : Step (Value × List Char)} (h : Leaves half levels inside IsDocument x) (hc : opens c)
    (hr : inside <:+ rest) : Leaves half (levels + 1) (c :: rest) IsDocument x := by
  cases x with
  | error t => exact Stops.outwards h hc hr
  | ok found => exact ⟨h.1, h.2.trans (hr.trans (List.suffix_cons c rest))⟩

theorem stops_of_level_zero {c : Char} {rest : List Char} (hc : opens c) :
    Stops half 0 (c :: rest) ⟨.tooDeep, c :: rest⟩ where
  suffix := List.suffix_rfl
  long := Problem.noConfusion
  deep _ := by
    rw [List.countP_cons_of_pos hc]
    omega
  alone := Problem.noConfusion

theorem leaves_value {fuel : Nat} (h : Sound half fuel) (levels : Nat) (cs : List Char) :
    Leaves half levels cs IsDocument (value half (fuel + 1) levels cs) := by
  unfold value
  split
  next rest =>
    exact (leaves_string levels '"' rest).bind fun s after _ hafter => ⟨.text s, hafter⟩
  next rest =>
    have space := skipSpace_suffix rest
    split
    next => exact stops_of_level_zero rfl
    next inner after closed =>
      rw [closed] at space
      exact ⟨.map List.nodup_nil (by simp),
        ((List.suffix_cons '}' after).trans space).trans (List.suffix_cons '{' rest)⟩
    next inner _ =>
      exact (h.members inner [] _ (.map List.nodup_nil (by simp))).outwards rfl space
  next rest =>
    have space := skipSpace_suffix rest
    split
    next => exact stops_of_level_zero rfl
    next inner after closed =>
      rw [closed] at space
      exact ⟨.list (by simp),
        ((List.suffix_cons ']' after).trans space).trans (List.suffix_cons '[' rest)⟩
    next inner _ =>
      exact (h.items inner [] _ (by simp)).outwards rfl space
  next =>
    split
    next found hword => exact leaves_word levels hword
    next => exact leaves_number levels cs

theorem leaves_members {fuel : Nat} (h : Sound half fuel) (levels : Nat)
    (before : List (String × Value)) (cs : List Char) (hbefore : IsDocument (.map before)) :
    Leaves half levels cs IsDocument (members half (fuel + 1) levels before cs) := by
  unfold members
  split
  next rest =>
    refine (leaves_string levels '"' rest).bind fun key after _ hafter => ?_
    have hafter := (skipSpace_suffix after).trans hafter
    dsimp only
    split
    next after' colon =>
      rw [colon] at hafter
      have hafter := (skipSpace_suffix after').trans ((List.suffix_cons ':' after').trans hafter)
      refine ((h.value levels _).mono hafter).bind fun v after hv hafter => ?_
      have hafter := (skipSpace_suffix after).trans hafter
      have entries := hbefore.putEntry key hv
      dsimp only
      split
      next after' closed =>
        rw [closed] at hafter
        exact ⟨entries, (List.suffix_cons '}' after').trans hafter⟩
      next after' comma =>
        rw [comma] at hafter
        exact (h.members levels _ _ entries).mono
          ((skipSpace_suffix after').trans ((List.suffix_cons ',' after').trans hafter))
      next => exact stops_of_form hafter (by decide)
    next => exact stops_of_form hafter (by decide)
  next => exact stops_of_form List.suffix_rfl (by decide)

theorem leaves_items {fuel : Nat} (h : Sound half fuel) (levels : Nat) (before : List Value)
    (cs : List Char) (hbefore : ∀ v ∈ before, IsDocument v) :
    Leaves half levels cs IsDocument (items half (fuel + 1) levels before cs) := by
  unfold items
  refine (h.value levels cs).bind fun v after hv hafter => ?_
  have hafter := (skipSpace_suffix after).trans hafter
  have each : ∀ w ∈ v :: before, IsDocument w := List.forall_mem_cons.2 ⟨hv, hbefore⟩
  dsimp only
  split
  next after' closed =>
    rw [closed] at hafter
    exact ⟨.list fun w hw => each w (List.mem_reverse.1 hw),
      (List.suffix_cons ']' after').trans hafter⟩
  next after' comma =>
    rw [comma] at hafter
    exact (h.items levels _ _ each).mono
      ((skipSpace_suffix after').trans ((List.suffix_cons ',' after').trans hafter))
  next => exact stops_of_form hafter (by decide)

theorem sound (half : Option Char) : ∀ fuel : Nat, Sound half fuel := by
  intro fuel
  induction fuel with
  | zero =>
    exact ⟨fun _ _ => stops_of_form List.suffix_rfl (by decide),
      fun _ _ _ _ => stops_of_form List.suffix_rfl (by decide),
      fun _ _ _ _ => stops_of_form List.suffix_rfl (by decide)⟩
  | succ fuel ih => exact ⟨leaves_value ih, leaves_members ih, leaves_items ih⟩

/-- **A text is read as a value of a document, or reading stops at an end of it** for a reason that
is there. -/
theorem readWith_spec (half : Option Char) (levels : Nat) (cs : List Char) :
    (∀ v, readWith half levels cs = .ok v → IsDocument v) ∧
      ∀ t, readWith half levels cs = .error t → Stops half levels cs t := by
  unfold readWith
  split
  next =>
    refine ⟨fun v h => ?_, fun t h => ?_⟩ <;> cases h
    exact stops_of_form List.suffix_rfl (by decide)
  next =>
    have leaves := ((sound half (cs.length + 1)).value levels (skipSpace cs)).mono
      (skipSpace_suffix cs)
    cases found : value half (cs.length + 1) levels (skipSpace cs) with
    | error t =>
      rw [found] at leaves
      refine ⟨fun v h => ?_, fun t h => ?_⟩ <;> cases h
      exact leaves
    | ok found' =>
      obtain ⟨v, after⟩ := found'
      rw [found] at leaves
      obtain ⟨hv, hafter⟩ := leaves
      have hafter := (skipSpace_suffix after).trans hafter
      dsimp only [bind, Except.bind]
      split
      next =>
        refine ⟨fun w h => ?_, fun t h => ?_⟩ <;> cases h
        exact hv
      next =>
        refine ⟨fun w h => ?_, fun t h => ?_⟩ <;> cases h
        exact stops_of_form hafter (by decide)

end Json

end StorageMetadata
