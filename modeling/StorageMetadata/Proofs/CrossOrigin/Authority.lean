import Mathlib.Data.List.Basic
import Mathlib.Data.List.TakeWhile
import StorageMetadata.CrossOrigin.Parts

/-!
# A composed address is read again

An address that was put together from a scheme, a host and a port has its parts where the reader
looks for them.  The reader cuts at certain characters, and none of the parts holds the ones that
it is cut at: a scheme no colon, a host that is a name none of `/?#@[]:`, what stands in brackets
none of `/?#@[]%`.  So the authority is what follows the two slashes,

    authority (SCHEME :// REST) = REST,

a host that is a name is named as it is, and for a host in brackets everything depends on what the
brackets hold.
-/

namespace StorageMetadata.Origin

open StorageMetadata.Address

variable {sep : Char} {cs front rest scheme host inside port : List Char}

/-! ### Cutting at a character -/

theorem ne_sep_of_notMem (h : sep ∉ cs) : ∀ c ∈ cs, decide (c ≠ sep) = true := by
  intro c hc
  exact decide_eq_true (ne_of_mem_of_not_mem hc h)

theorem before_append (h : sep ∉ front) : before sep (front ++ sep :: rest) = front := by
  rw [before, List.takeWhile_append_of_pos (ne_sep_of_notMem h),
    List.takeWhile_cons_of_neg (by simp), List.append_nil]

theorem before_eq_self (h : sep ∉ cs) : before sep cs = cs :=
  List.takeWhile_eq_self_iff.2 (ne_sep_of_notMem h)

theorem behind?_append (h : sep ∉ front) : behind? sep (front ++ sep :: rest) = some rest := by
  rw [behind?, List.dropWhile_append_of_pos (ne_sep_of_notMem h),
    List.dropWhile_cons_of_neg (by simp)]

theorem behind?_eq_none (h : sep ∉ cs) : behind? sep cs = none := by
  rw [behind?, List.dropWhile_eq_nil_iff.2 (ne_sep_of_notMem h)]

theorem behindLast_eq_self (h : sep ∉ cs) : behindLast sep cs = cs := by
  have reversed : sep ∉ cs.reverse := by rwa [List.mem_reverse]
  rw [behindLast, List.takeWhile_eq_self_iff.2 (ne_sep_of_notMem reversed), List.reverse_reverse]

/-! ### The characters of the parts -/

/-- Is the character neither a blank nor a control character, and not one of `stops`? -/
def ClearOf (stops : String) (c : Char) : Prop := ' ' < c ∧ c ∉ stops.toList

instance (stops : String) (c : Char) : Decidable (ClearOf stops c) := by
  unfold ClearOf
  infer_instance

/-- It takes finitely many characters to see that a kind of character is clear of the stops. -/
theorem clearOf_of_kind {kind : Char → Bool} {stops : String} {c : Char}
    (low : ∀ n < 33, kind (Char.ofNat n) = false) (stop : stops.toList.all (!kind ·) = true)
    (h : kind c = true) : ClearOf stops c := by
  constructor
  · apply Char.not_le.1
    intro small
    have bound : c.toNat < 33 := Nat.lt_succ_of_le small
    rw [← Char.ofNat_toNat c, low c.toNat bound] at h
    cases h
  · intro stopped
    have other := List.all_eq_true.1 stop c stopped
    rw [h] at other
    cases other

theorem ClearOf.mono {stops fewer : String} {c : Char} (h : ClearOf stops c)
    (sub : fewer.toList ⊆ stops.toList) : ClearOf fewer c :=
  ⟨h.1, fun hc => h.2 (sub hc)⟩

theorem notMem_of_clear {stops : String} (h : ∀ c ∈ cs, ClearOf stops c) (hsep : sep ∈ stops.toList) :
    sep ∉ cs :=
  fun hc => (h sep hc).2 hsep

/-- May `c` stand in a scheme? -/
def isSchemeChar (c : Char) : Bool := isLetterOrDigit c || "+.-".toList.contains c

/-- May `c` stand in brackets? -/
def isBracketChar (c : Char) : Bool := isHex c || c = ':' || c = '.'

theorem clear_schemeChar {c : Char} (h : isSchemeChar c = true) : ClearOf ":/?#@[]" c :=
  clearOf_of_kind (by decide) (by decide) h

theorem clear_hostChar {c : Char} (h : isHostChar c = true) : ClearOf ":/?#@[]" c :=
  clearOf_of_kind (by decide) (by decide) h

theorem clear_bracketChar {c : Char} (h : isBracketChar c = true) : ClearOf "%v/?#@[]" c :=
  clearOf_of_kind (by decide) (by decide) h

theorem clear_digit {c : Char} (h : c.isDigit = true) : ClearOf ":/?#@[]" c :=
  clearOf_of_kind (by decide) (by decide) h

theorem schemeChar_of_isScheme (h : isScheme scheme = true) :
    ∀ c ∈ scheme, isSchemeChar c = true := by
  cases scheme with
  | nil => cases h
  | cons first rest =>
    obtain ⟨letter, others⟩ := (Bool.and_eq_true _ _).mp h
    intro c hc
    rcases List.mem_cons.1 hc with rfl | hc
    · simp [isSchemeChar, isLetterOrDigit, letter]
    · exact List.all_eq_true.1 others c hc

/-- A host in the characters that it may have: a name, or something in brackets. -/
inductive HostChars : List Char → Prop
  | name {host : List Char} (some : host ≠ []) (chars : ∀ c ∈ host, isHostChar c = true) :
      HostChars host
  | brackets {inside : List Char} (some : inside ≠ [])
      (chars : ∀ c ∈ inside, isBracketChar c = true) : HostChars ('[' :: inside ++ [']'])

/-- What follows a host: nothing, or a colon and digits. -/
inductive PortChars : List Char → Prop
  | nothing : PortChars []
  | digits {ds : List Char} (chars : ∀ c ∈ ds, c.isDigit = true) : PortChars (':' :: ds)

theorem insideBrackets?_brackets (inside : List Char) :
    insideBrackets? ('[' :: inside ++ [']']) = some inside := by
  simp [insideBrackets?]

theorem insideBrackets?_eq_some_iff :
    insideBrackets? cs = some inside ↔ cs = '[' :: inside ++ [']'] := by
  constructor
  · intro h
    unfold insideBrackets? at h
    split at h
    next rest =>
      split at h
      next last =>
        cases h
        rw [List.cons_append, List.dropLast_append_getLast? ']' last]
      next => cases h
    next => cases h
  · rintro rfl
    exact insideBrackets?_brackets inside

theorem insideBrackets?_name (chars : ∀ c ∈ host, isHostChar c = true) :
    insideBrackets? host = none := by
  rw [Option.eq_none_iff_forall_ne_some]
  intro inside found
  obtain rfl := insideBrackets?_eq_some_iff.1 found
  exact absurd (chars '[' (by simp)) (by decide)

theorem isHost_iff : isHost host = true ↔ HostChars host := by
  constructor
  · intro h
    unfold isHost at h
    split at h
    next inside found =>
      obtain ⟨some, chars⟩ := (Bool.and_eq_true _ _).mp h
      rw [insideBrackets?_eq_some_iff.1 found]
      exact .brackets (by simpa using some) (List.all_eq_true.1 chars)
    next =>
      obtain ⟨some, chars⟩ := (Bool.and_eq_true _ _).mp h
      exact .name (by simpa using some) (List.all_eq_true.1 chars)
  · intro h
    cases h with
    | name some chars =>
      unfold isHost
      rw [insideBrackets?_name chars]
      simpa [some] using chars
    | brackets some chars =>
      unfold isHost
      rw [insideBrackets?_brackets]
      simpa [some, isBracketChar] using chars

/-! ### Reading the address again -/

/-- A part is clear of blanks, control characters, and what ends an authority or sets off a user. -/
def IsClear (cs : List Char) : Prop := ∀ c ∈ cs, ClearOf "/?#@" c

theorem IsClear.append (hfront : IsClear front) (hrest : IsClear rest) : IsClear (front ++ rest) := by
  intro c hc
  rcases List.mem_append.1 hc with hc | hc
  · exact hfront c hc
  · exact hrest c hc

theorem HostChars.isClear (h : HostChars host) : IsClear host := by
  cases h with
  | name _ chars =>
    intro c hc
    exact (clear_hostChar (chars c hc)).mono (by decide)
  | brackets _ chars =>
    intro c hc
    simp only [List.mem_append, List.mem_cons, List.not_mem_nil, or_false] at hc
    rcases hc with (rfl | hc) | rfl
    · decide
    · exact (clear_bracketChar (chars c hc)).mono (by decide)
    · decide

theorem PortChars.clear (h : PortChars port) : ∀ c ∈ port, ClearOf "/?#@[]" c := by
  intro c hc
  cases h with
  | nothing => cases hc
  | digits chars =>
    rcases List.mem_cons.1 hc with rfl | hc
    · decide
    · exact (clear_digit (chars c hc)).mono (by decide)

theorem PortChars.isClear (h : PortChars port) : IsClear port :=
  fun c hc => (h.clear c hc).mono (by decide)

/-- The text of an address with a scheme and an authority. -/
def address (scheme authority : List Char) : List Char := scheme ++ ':' :: '/' :: '/' :: authority

/-- Nothing is taken off the front of an address or out of it. -/
theorem tidied_address (hscheme : isScheme scheme = true) (hrest : IsClear rest) :
    tidied (address scheme rest) = address scheme rest := by
  have visible : ∀ c ∈ address scheme rest, ' ' < c := by
    intro c hc
    simp only [address, List.mem_append, List.mem_cons] at hc
    rcases hc with hc | rfl | rfl | rfl | hc
    · exact (clear_schemeChar (schemeChar_of_isScheme hscheme c hc)).1
    · decide
    · decide
    · decide
    · exact (hrest c hc).1
  have kept : (address scheme rest).dropWhile (· ≤ ' ') = address scheme rest := by
    rw [List.dropWhile_eq_self_iff]
    intro some
    have first := visible _ (List.getElem_mem some)
    simpa using first
  rw [tidied, kept, List.filter_eq_self]
  intro c hc
  have blanks : "\t\r\n".toList.all (decide <| · ≤ ' ') = true := by decide
  have other : c ∉ "\t\r\n".toList := by
    intro blank
    have low := of_decide_eq_true (List.all_eq_true.1 blanks c blank)
    exact Char.not_lt.2 low (visible c hc)
  simpa using other

/-- The authority is what follows the two slashes. -/
theorem authority_address (hscheme : isScheme scheme = true) (hrest : IsClear rest) :
    authority (address scheme rest) = rest := by
  have schemeClear := fun c hc => clear_schemeChar (schemeChar_of_isScheme hscheme c hc)
  have colon : ':' ∉ scheme := notMem_of_clear schemeClear (by decide)
  have without : withoutScheme (address scheme rest) = '/' :: '/' :: rest := by
    simp only [withoutScheme, address, behind?_append colon, before_append colon, if_pos hscheme]
  have inner : ∀ c ∈ rest, (!"/?#".toList.contains c) = true := by
    intro c hc
    have clear : ClearOf "/?#" c := (hrest c hc).mono (by decide)
    simpa using clear.2
  rw [authority, tidied_address hscheme hrest, without]
  exact List.takeWhile_eq_self_iff.2 inner

/-- What brackets hold in an origin is neither of a version to come nor has it a zone. -/
theorem checkBracketed_of_chars {α : Type} (chars : ∀ c ∈ inside, isBracketChar c = true) :
    checkBracketed (α := α) inside =
      if isV4 inside then .error .bracketedIpv4
      else if isV6 inside then .ok ()
      else .error (.notAnAddress (String.ofList inside)) := by
  have clear := fun c hc => clear_bracketChar (chars c hc)
  have present : inside.head? ≠ some 'v' := by
    intro first
    exact notMem_of_clear clear (by decide) (List.mem_of_mem_head? first)
  have unzoned : isZonedV6 inside = isV6 inside := by
    rw [isZonedV6, behind?_eq_none (notMem_of_clear clear (by decide))]
  rw [checkBracketed, if_neg present, unzoned]

/-- The host is in front of the port's colon. -/
theorem before_port (hhost : ':' ∉ host) (hport : PortChars port) :
    before ':' (host ++ port) = host := by
  cases hport with
  | nothing => rw [List.append_nil, before_eq_self hhost]
  | digits _ => exact before_append hhost

/-- **A host that is a name is found again.** -/
theorem hostName?_name {α : Type} (hscheme : isScheme scheme = true) (nonempty : host ≠ [])
    (chars : ∀ c ∈ host, isHostChar c = true) (hport : PortChars port) :
    hostName? (α := α) (address scheme (host ++ port)) = .ok (some host) := by
  have hostClear := fun c hc => clear_hostChar (chars c hc)
  have clear : ∀ c ∈ host ++ port, ClearOf "/?#@[]" c := by
    intro c hc
    rcases List.mem_append.1 hc with hc | hc
    · exact (hostClear c hc).mono (by decide)
    · exact hport.clear c hc
  have noOpening : behind? '[' (host ++ port) = none :=
    behind?_eq_none (notMem_of_clear clear (by decide))
  have noClosing : ']' ∉ host ++ port := notMem_of_clear clear (by decide)
  have noUser : '@' ∉ host ++ port := notMem_of_clear clear (by decide)
  have named : hostName (host ++ port) = host := by
    simp only [hostName, behindLast_eq_self noUser, noOpening]
    exact before_port (notMem_of_clear hostClear (by decide)) hport
  have unpaired : (host ++ port).contains ']' = false := by simpa using noClosing
  rw [hostName?, authority_address hscheme fun c hc => (clear c hc).mono (by decide)]
  simp only [checkBrackets, noOpening, unpaired, named]
  simp [nonempty, bind, Except.bind, pure, Except.pure]

/-- **A host in brackets is found again, if what the brackets hold is an address.** -/
theorem hostName?_brackets {α : Type} (hscheme : isScheme scheme = true) (nonempty : inside ≠ [])
    (chars : ∀ c ∈ inside, isBracketChar c = true) (hport : PortChars port) :
    hostName? (α := α) (address scheme ('[' :: inside ++ [']'] ++ port)) =
      (checkBracketed inside).map fun _ => some inside := by
  have insideClear := fun c hc => clear_bracketChar (chars c hc)
  have clear := (HostChars.brackets nonempty chars).isClear.append hport.isClear
  have opening : behind? '[' ('[' :: inside ++ [']'] ++ port) = some (inside ++ ']' :: port) := by
    have first : behind? '[' ([] ++ '[' :: (inside ++ ']' :: port)) = _ := behind?_append (by simp)
    simpa using first
  have closing : before ']' (inside ++ ']' :: port) = inside :=
    before_append (notMem_of_clear insideClear (by decide))
  have noUser : '@' ∉ '[' :: inside ++ [']'] ++ port := notMem_of_clear clear (by decide)
  have named : hostName ('[' :: inside ++ [']'] ++ port) = inside := by
    simp only [hostName, behindLast_eq_self noUser, opening, closing]
  have paired : ('[' :: inside ++ [']'] ++ port).contains ']' = true := by simp
  rw [hostName?, authority_address hscheme clear]
  simp only [checkBrackets, opening, paired, closing, named]
  cases checkBracketed (α := α) inside with
  | error p => rfl
  | ok _ => simp [nonempty, bind, Except.bind, pure, Except.pure, Except.map]

end StorageMetadata.Origin
