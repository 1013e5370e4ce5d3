import StorageMetadata.Proofs.CrossOrigin.Authority
import StorageMetadata.Proofs.Number.Decimal

/-!
# Exactly the valid origins are composed

`Composes scheme host port` says which parts make an origin, and `text scheme host port` is the
origin that they make.  The parts are read off it again,

    parts? (text scheme host port) = some (scheme, host, port),

so that no two origins are one, and a host cannot bring a port of its own.  What does not compose is
refused with all three parts, except that a port may have too many digits to be told.
-/

namespace StorageMetadata.Origin

open StorageMetadata.Address StorageMetadata.Text

variable {scheme host : List Char} {port : Int}

/-! ### What composes -/

/-- A letter, and then letters, digits, plus signs, points and dashes. -/
inductive SchemeText : List Char → Prop
  | letter {first : Char} {rest : List Char} (letter : first.isAlpha = true)
      (chars : ∀ c ∈ rest, c.isAlphanum = true ∨ c ∈ "+.-".toList) : SchemeText (first :: rest)

/-- A name, or an address of the sixth version in brackets. -/
inductive HostText : List Char → Prop
  | name {host : List Char} (nonempty : host ≠ [])
      (chars : ∀ c ∈ host, c.isAlphanum = true ∨ c ∈ "-._~%!$&'()*+,;=".toList) : HostText host
  | address {inside : List Char} (chars : ∀ c ∈ inside, isHex c = true ∨ c = ':' ∨ c = '.')
      (valid : isV6 inside = true) : HostText ('[' :: inside ++ [']'])

/-- Is the number a port, or minus one for none? -/
def IsPort (port : Int) : Prop := port = -1 ∨ 0 ≤ port ∧ port ≤ 65535

/-- The parts that make an origin; the host has its brackets. -/
structure Composes (scheme host : List Char) (port : Int) : Prop where
  scheme : SchemeText scheme
  host : HostText host
  port : IsPort port

/-- What follows the host. -/
def portText (port : Int) : List Char := if port = -1 then [] else ':' :: Decimal.chars port

/-- The origin that the parts make. -/
def text (scheme host : List Char) (port : Int) : List Char :=
  scheme ++ "://".toList ++ host ++ portText port

/-! ### What is checked -/

theorem isLetter_eq (c : Char) : isLetter c = c.isAlpha := by
  have upper : (decide ('A' ≤ c) && decide (c ≤ 'Z')) = c.isUpper := (Bool.decide_and _ _).symm
  rw [isLetter, upper]
  rfl

theorem isLetterOrDigit_eq (c : Char) : isLetterOrDigit c = c.isAlphanum := by
  rw [isLetterOrDigit, isLetter_eq]
  rfl

theorem isScheme_iff : isScheme scheme = true ↔ SchemeText scheme := by
  constructor
  · intro h
    cases scheme with
    | nil => cases h
    | cons first rest =>
      obtain ⟨letter, chars⟩ := (Bool.and_eq_true _ _).mp h
      rw [isLetter_eq] at letter
      refine .letter letter fun c hc => ?_
      simpa [isLetterOrDigit_eq] using List.all_eq_true.1 chars c hc
  · rintro ⟨letter, chars⟩
    simp only [isScheme, isLetter_eq, letter, Bool.true_and, List.all_eq_true]
    intro c hc
    simpa [isLetterOrDigit_eq] using chars c hc

theorem isHostChar_iff {c : Char} :
    isHostChar c = true ↔ c.isAlphanum = true ∨ c ∈ "-._~%!$&'()*+,;=".toList := by
  simp [isHostChar, isLetterOrDigit_eq]

theorem isBracketChar_iff {c : Char} :
    isBracketChar c = true ↔ isHex c = true ∨ c = ':' ∨ c = '.' := by
  simp [isBracketChar, or_assoc]

/-- An address of the fourth version has no colon, and one of the sixth has several. -/
theorem isV4_eq_false_of_isV6 {cs : List Char} (h : isV6 cs = true) : isV4 cs = false := by
  rw [← Bool.not_eq_true]
  intro v4
  have octets : ∀ piece ∈ splitAll '.' cs, isOctet piece = true := by
    obtain ⟨_, all⟩ := (Bool.and_eq_true _ _).mp v4
    exact List.all_eq_true.1 all
  have noColon : ':' ∉ cs := by
    intro hc
    have other : ':' ≠ '.' := by decide
    obtain ⟨piece, hpiece, found⟩ := exists_mem_splitAll hc other
    have octet := octets piece hpiece
    unfold isOctet at octet
    cases hds : piece.mapM asciiDigit? with
    | none => simp [hds] at octet
    | some ds =>
      have digit := (Decimal.run_of_mapM_asciiDigit? hds).2 ':' found
      exact absurd digit (by decide)
  have short : (splitAll ':' cs).length < 3 := by
    rw [splitAll_of_notMem noColon, List.length_singleton]
    omega
  simp [isV6, short] at h

/-- A host has the characters of one, and what its brackets hold is an address. -/
theorem hostText_iff :
    HostText host ↔
      HostChars host ∧ ∀ inside, insideBrackets? host = some inside → isV6 inside = true := by
  constructor
  · intro h
    cases h with
    | name nonempty chars =>
      have chars := fun c hc => isHostChar_iff.2 (chars c hc)
      refine ⟨.name nonempty chars, fun inside found => ?_⟩
      rw [insideBrackets?_name chars] at found
      cases found
    | @address inside chars valid =>
      have nonempty : inside ≠ [] := by
        rintro rfl
        cases valid
      refine ⟨.brackets nonempty fun c hc => isBracketChar_iff.2 (chars c hc), ?_⟩
      intro held found
      rw [insideBrackets?_brackets] at found
      cases found
      exact valid
  · rintro ⟨chars, valid⟩
    cases chars with
    | name nonempty chars => exact .name nonempty fun c hc => isHostChar_iff.1 (chars c hc)
    | brackets nonempty chars =>
      refine .address (fun c hc => isBracketChar_iff.1 (chars c hc)) ?_
      exact valid _ (insideBrackets?_brackets _)

theorem portChars_portText (h : IsPort port) : PortChars (portText port) := by
  unfold portText
  split
  · exact .nothing
  · have natural : ¬port < 0 := by
      rcases h with h | h <;> omega
    rw [Decimal.chars, if_neg natural]
    exact .digits fun c hc => Nat.isDigit_of_mem_toDigits (by decide) (by decide) hc

/-! ### What is composed -/

theorem checkPort_int (port : Int) : checkPort (.int port) =
    if port = -1 then .ok none
    else if 0 ≤ port ∧ port ≤ 65535 then .ok (some (Decimal.write port))
    else .error (.port (.int port)) :=
  rfl

/-- The parts that pass the checks make an address that is read again. -/
theorem compose_eq {scheme host : String} (hscheme : isScheme scheme.toList = true)
    (hhost : isHost (bracketed host.toList) = true) (hport : IsPort port) :
    compose (.text scheme) (.text host) (.int port) =
      reread (String.ofList (text scheme.toList (bracketed host.toList) port)) := by
  have checked : checkPort (.int port) =
      .ok (if port = -1 then none else some (Decimal.write port)) := by
    rw [checkPort_int]
    split
    · rfl
    next some => rw [if_pos (hport.resolve_left some)]
  simp only [compose, checkScheme, hscheme, checkHost, hhost, checked, if_true, bind, Except.bind]
  apply congrArg reread
  rw [← String.toList_inj]
  by_cases none : port = -1
  · simp [text, portText, none]
  · simp [text, portText, none, Decimal.write]

theorem text_eq_address (scheme host : List Char) (port : Int) :
    text scheme host port = address scheme (host ++ portText port) := by
  simp [text, address]

/-- An origin names its host, unless brackets in it hold no address of the sixth version. -/
theorem reread_text (hscheme : SchemeText scheme) (hhost : HostChars host) (hport : IsPort port) :
    reread (String.ofList (text scheme host port)) =
      match insideBrackets? host with
      | none => .ok (String.ofList (text scheme host port))
      | some inside =>
        if isV4 inside then .error .bracketedIpv4
        else if isV6 inside then .ok (String.ofList (text scheme host port))
        else .error (.notAnAddress (String.ofList inside)) := by
  have hscheme := isScheme_iff.2 hscheme
  have hport := portChars_portText hport
  simp only [reread, String.toList_ofList]
  rw [text_eq_address]
  cases hhost with
  | name nonempty chars =>
    rw [hostName?_name hscheme nonempty chars hport, insideBrackets?_name chars]
    rfl
  | @brackets inside nonempty chars =>
    rw [hostName?_brackets hscheme nonempty chars hport, checkBracketed_of_chars chars,
      insideBrackets?_brackets]
    cases v4 : isV4 inside with
    | true => simp only [v4, if_true]; rfl
    | false => cases v6 : isV6 inside with
      | true => simp only [v4, v6, if_true]; rfl
      | false => simp only [v4, v6]; rfl

/-- Why parts do not make an origin: the first thing that is wrong with them. -/
inductive Spoils (scheme host : String) (port : Int) : OriginProblem Value → Prop
  | scheme : ¬SchemeText scheme.toList → Spoils scheme host port (.scheme scheme)
  | host : SchemeText scheme.toList → ¬HostChars (bracketed host.toList) →
      Spoils scheme host port (.host (String.ofList (bracketed host.toList)))
  | port : SchemeText scheme.toList → HostChars (bracketed host.toList) → ¬IsPort port →
      Spoils scheme host port (.port (.int port))
  | version4 {inside : List Char} : SchemeText scheme.toList → IsPort port →
      bracketed host.toList = '[' :: inside ++ [']'] → isV4 inside = true →
      Spoils scheme host port .bracketedIpv4
  | address {inside : List Char} : SchemeText scheme.toList → IsPort port →
      bracketed host.toList = '[' :: inside ++ [']'] → isV4 inside = false → isV6 inside = false →
      Spoils scheme host port (.notAnAddress (String.ofList inside))

variable {s h : String}

/-- **What composes is composed.** -/
theorem compose_of_composes (parts : Composes s.toList (bracketed h.toList) port) :
    compose (.text s) (.text h) (.int port) =
      .ok (String.ofList (text s.toList (bracketed h.toList) port)) := by
  obtain ⟨chars, valid⟩ := hostText_iff.1 parts.host
  rw [compose_eq (isScheme_iff.2 parts.scheme) (isHost_iff.2 chars) parts.port,
    reread_text parts.scheme chars parts.port]
  split
  next => rfl
  next inside found => rw [isV4_eq_false_of_isV6 (valid inside found), valid inside found]; rfl

/-- If nothing else is wrong with the parts, the brackets do not hold an address. -/
theorem exists_inside (hscheme : SchemeText scheme) (chars : HostChars host) (hport : IsPort port)
    (parts : ¬Composes scheme host port) :
    ∃ inside, insideBrackets? host = some inside ∧ isV6 inside = false := by
  have invalid : ¬∀ inside, insideBrackets? host = some inside → isV6 inside = true := by
    intro valid
    exact parts ⟨hscheme, hostText_iff.2 ⟨chars, valid⟩, hport⟩
  obtain ⟨inside, h⟩ := not_forall.1 invalid
  obtain ⟨found, v6⟩ := Classical.not_imp.1 h
  exact ⟨inside, found, Bool.not_eq_true _ ▸ v6⟩

/-- **What does not compose is refused for the first thing that is wrong.** -/
theorem compose_of_not_composes (parts : ¬Composes s.toList (bracketed h.toList) port) :
    ∃ problem, compose (.text s) (.text h) (.int port) = .error problem ∧ Spoils s h port problem := by
  by_cases hscheme : SchemeText s.toList
  · have schemeChecked := isScheme_iff.2 hscheme
    by_cases chars : HostChars (bracketed h.toList)
    · have hostChecked := isHost_iff.2 chars
      by_cases hport : IsPort port
      · obtain ⟨inside, found, v6⟩ := exists_inside hscheme chars hport parts
        have shape := insideBrackets?_eq_some_iff.1 found
        rw [compose_eq schemeChecked hostChecked hport, reread_text hscheme chars hport, found]
        cases v4 : isV4 inside with
        | true => exact ⟨_, by simp only [v4, if_true], .version4 hscheme hport shape v4⟩
        | false =>
          refine ⟨_, ?_, .address hscheme hport shape v4 v6⟩
          simp only [v4, v6]
          rfl
      · refine ⟨_, ?_, .port hscheme chars hport⟩
        obtain ⟨some, outside⟩ := not_or.1 hport
        simp only [compose, checkScheme, schemeChecked, checkHost, hostChecked, checkPort_int,
          if_neg some, if_neg outside, if_true]
        rfl
    · refine ⟨_, ?_, .host hscheme chars⟩
      have hostRefused : isHost (bracketed h.toList) = false := by
        rwa [← Bool.not_eq_true, isHost_iff]
      simp only [compose, checkScheme, schemeChecked, checkHost, hostRefused]
      rfl
  · refine ⟨_, ?_, .scheme hscheme⟩
    have schemeRefused : isScheme s.toList = false := by
      rwa [← Bool.not_eq_true, isScheme_iff]
    simp only [compose, checkScheme, schemeRefused]
    rfl

/-! ### Reading the parts off -/

/-- The host at the front of a text, and what is behind it. -/
def splitHost : List Char → List Char × List Char
  | '[' :: rest => ('[' :: before ']' rest ++ [']'], (behind? ']' rest).getD [])
  | cs => (before ':' cs, cs.drop (before ':' cs).length)

/-- The port that follows a host. -/
def port? : List Char → Option Int
  | [] => some (-1)
  | ':' :: digits => Decimal.readChars? digits
  | _ => none

/-- The parts of an origin: the scheme, the host and the port. -/
def parts? (cs : List Char) : Option (List Char × List Char × Int) := do
  let rest ← behind? ':' cs
  let (host, port) := splitHost (rest.drop 2)
  return (before ':' cs, host, ← port? port)

theorem splitHost_append (hhost : HostChars host) {port : List Char} (hport : PortChars port) :
    splitHost (host ++ port) = (host, port) := by
  cases hhost with
  | name nonempty chars =>
    have clear := fun c hc => clear_hostChar (chars c hc)
    have front : before ':' (host ++ port) = host :=
      before_port (notMem_of_clear clear (by decide)) hport
    have unbracketed : ∀ rest, host ++ port ≠ '[' :: rest := by
      intro rest same
      obtain ⟨first, more, rfl⟩ := List.exists_cons_of_ne_nil nonempty
      obtain rfl := (List.cons.inj same).1
      exact (clear '[' List.mem_cons_self).2 (by decide)
    rw [splitHost.eq_2 _ unbracketed, front, List.drop_left]
  | @brackets inside _ chars =>
    have clear := fun c hc => clear_bracketChar (chars c hc)
    have inner : ']' ∉ inside := notMem_of_clear clear (by decide)
    have shape : '[' :: inside ++ [']'] ++ port = '[' :: (inside ++ ']' :: port) := by simp
    rw [shape, splitHost, before_append inner, behind?_append inner]
    rfl

theorem fits_of_isPort (hport : IsPort port) : Decimal.Fits port := by
  have small : port.natAbs < 10 ^ 5 := by
    rcases hport with h | h <;> omega
  have most : 5 ≤ Decimal.maxDigits := by decide
  rw [Decimal.fits_iff]
  exact Nat.lt_of_lt_of_le small (Nat.pow_le_pow_right (by decide) most)

theorem port?_portText (hport : IsPort port) : port? (portText port) = some port := by
  unfold portText
  split
  next none => rw [none]; rfl
  next some =>
    have read := Decimal.read?_write (fits_of_isPort hport)
    rwa [Decimal.read?, Decimal.write, String.toList_ofList] at read

/-- **The parts are read off the origin that they make.** -/
theorem parts?_text (h : Composes scheme host port) :
    parts? (text scheme host port) = some (scheme, host, port) := by
  have schemeClear := fun c hc =>
    clear_schemeChar (schemeChar_of_isScheme (isScheme_iff.2 h.scheme) c hc)
  have colon : ':' ∉ scheme := notMem_of_clear schemeClear (by decide)
  obtain ⟨hostChars, _⟩ := hostText_iff.1 h.host
  have split := splitHost_append hostChars (portChars_portText h.port)
  have rest : ('/' :: '/' :: (host ++ portText port)).drop 2 = host ++ portText port := rfl
  rw [text_eq_address, address, parts?, behind?_append colon, before_append colon]
  simp only [Option.bind_eq_bind, Option.bind_some, rest, split, port?_portText h.port]
  rfl

/-- Different parts make different origins. -/
theorem eq_of_text_eq {scheme' host' : List Char} {port' : Int} (h : Composes scheme host port)
    (h' : Composes scheme' host' port') (same : text scheme host port = text scheme' host' port') :
    scheme = scheme' ∧ host = host' ∧ port = port' := by
  have read := parts?_text h
  rw [same, parts?_text h', Option.some_inj, Prod.mk.injEq, Prod.mk.injEq] at read
  obtain ⟨hscheme, hhost, hport⟩ := read
  exact ⟨hscheme.symm, hhost.symm, hport.symm⟩

/-! ### The origin with the given parts -/

theorem ofParts_of_composes (parts : Composes s.toList (bracketed h.toList) port) :
    ofParts (.text s) (.text h) (.int port) =
      .ok ⟨.text (String.ofList (text s.toList (bracketed h.toList) port)), false⟩ := by
  have other : String.ofList (text s.toList (bracketed h.toList) port) ≠ anyOrigin := by
    intro same
    have colon : ':' ∈ anyOrigin.toList := by
      rw [← same, String.toList_ofList]
      simp [text]
    exact absurd colon (by decide)
  simp only [ofParts, compose_of_composes parts, Origin.of, other, decide_false]

theorem isOverlong_int (port : Int) : isOverlong (.int port) = decide ¬Decimal.Fits port := by
  apply decide_eq_decide.2
  rw [Decimal.Fits, Nat.not_le]

/-- What does not compose is refused, with all its parts if the port can be told. -/
theorem ofParts_of_not_composes (parts : ¬Composes s.toList (bracketed h.toList) port) :
    ∃ problem, Spoils s h port problem ∧ ofParts (.text s) (.text h) (.int port) =
      if Decimal.Fits port then
        .error (.invalidOrigin (.text s) (.text h) (.int port) (some problem))
      else .error (.stray .malformed) := by
  obtain ⟨problem, refused, spoils⟩ := compose_of_not_composes parts
  have holder : isColonHolder (.text h) = false := rfl
  refine ⟨problem, spoils, ?_⟩
  by_cases fits : Decimal.Fits port
  · simp only [ofParts, refused, holder, isOverlong_int, fits]
    rfl
  · simp only [ofParts, refused, holder, isOverlong_int, fits]
    rfl

theorem composes_of_ofParts {o : Origin Value}
    (composed : ofParts (.text s) (.text h) (.int port) = .ok o) :
    Composes s.toList (bracketed h.toList) port := by
  by_contra parts
  obtain ⟨problem, -, refused⟩ := ofParts_of_not_composes parts
  rw [composed] at refused
  split at refused <;> cases refused

/-- A problem that spoils the parts is one of their texts or of the port's size. -/
theorem Spoils.isMalformed {problem : OriginProblem Value} (spoils : Spoils s h port problem) :
    (Failure.invalidOrigin (.text s) (.text h) (.int port) (some problem)).cause? =
      some .malformed := by
  cases spoils <;> rfl

theorem compose_ne_noAuthority (address : String) :
    compose (.text s) (.text h) (.int port) ≠ .error (.noAuthority address) := by
  intro unnamed
  by_cases parts : Composes s.toList (bracketed h.toList) port
  · rw [compose_of_composes parts] at unnamed
    cases unnamed
  · obtain ⟨problem, refused, spoils⟩ := compose_of_not_composes parts
    rw [refused] at unnamed
    cases unnamed
    cases spoils

/-- **Exactly the valid origins are composed**, from texts and an integer.  Each tells the parts that
it was composed of, and what does not compose is refused with all its parts, as long as the port can
be told.  An address is never without an authority. -/
theorem composes_exactly (scheme host : String) (port : Int) :
    ((∃ o, ofParts (.text scheme) (.text host) (.int port) = .ok o) ↔
      Composes scheme.toList (bracketed host.toList) port) ∧
    (∀ o, ofParts (.text scheme) (.text host) (.int port) = .ok o →
      o = ⟨.text (String.ofList (text scheme.toList (bracketed host.toList) port)), false⟩ ∧
      parts? (text scheme.toList (bracketed host.toList) port) =
        some (scheme.toList, bracketed host.toList, port)) ∧
    (∀ o scheme' host' port' o', ofParts (.text scheme) (.text host) (.int port) = .ok o →
      ofParts (.text scheme') (.text host') (.int port') = .ok o' → o.value = o'.value →
      scheme = scheme' ∧ bracketed host.toList = bracketed host'.toList ∧ port = port') ∧
    (¬Composes scheme.toList (bracketed host.toList) port →
      if Decimal.Fits port then
        ∃ problem, ofParts (.text scheme) (.text host) (.int port) =
            .error (.invalidOrigin (.text scheme) (.text host) (.int port) (some problem)) ∧
          (Failure.invalidOrigin (.text scheme) (.text host) (.int port) (some problem)).cause? =
            some .malformed
      else ofParts (.text scheme) (.text host) (.int port) = .error (.stray .malformed)) ∧
    ∀ address, compose (.text scheme) (.text host) (.int port) ≠ .error (.noAuthority address) := by
  refine ⟨⟨?accepts, ?composes⟩, ?tells, ?differ, ?refuses, compose_ne_noAuthority⟩
  case accepts =>
    rintro ⟨o, composed⟩
    exact composes_of_ofParts composed
  case composes =>
    intro parts
    exact ⟨_, ofParts_of_composes parts⟩
  case tells =>
    intro o composed
    have parts := composes_of_ofParts composed
    rw [ofParts_of_composes parts] at composed
    cases composed
    exact ⟨rfl, parts?_text parts⟩
  case differ =>
    intro o scheme' host' port' o' composed composed' same
    have parts := composes_of_ofParts composed
    have parts' := composes_of_ofParts composed'
    rw [ofParts_of_composes parts] at composed
    rw [ofParts_of_composes parts'] at composed'
    cases composed
    cases composed'
    have texts := String.ofList_injective (Value.text.inj same)
    obtain ⟨hscheme, hhost, hport⟩ := eq_of_text_eq parts parts' texts
    exact ⟨String.toList_inj.1 hscheme, hhost, hport⟩
  case refuses =>
    intro parts
    obtain ⟨problem, spoils, refused⟩ := ofParts_of_not_composes parts
    split
    next fits =>
      rw [if_pos fits] at refused
      exact ⟨problem, refused, spoils.isMalformed⟩
    next long => rwa [if_neg long] at refused

theorem composes_loopback : Composes "https".toList (bracketed "::1".toList) 443 := by
  refine ⟨isScheme_iff.1 (by decide), hostText_iff.2 ⟨isHost_iff.1 (by decide), ?_⟩, ?_⟩
  · intro inside found
    cases found
    decide
  · exact .inr (by decide)

/-- An address of the sixth version gets its brackets, and the origin tells it with them. -/
theorem composed_loopback :
    ofParts (.text "https") (.text "::1") (.int 443) = .ok ⟨.text "https://[::1]:443", false⟩ ∧
      parts? "https://[::1]:443".toList = some ("https".toList, "[::1]".toList, 443) := by
  obtain ⟨o, composed⟩ := (composes_exactly "https" "::1" 443).1.2 composes_loopback
  obtain ⟨rfl, told⟩ := (composes_exactly "https" "::1" 443).2.1 o composed
  exact ⟨composed, told⟩

/-- The least number with more than so many digits. -/
def leastBeyond (digits : Nat) : Int := Int.ofNat (Nat.pow 10 digits)

theorem natAbs_leastBeyond (digits : Nat) : (leastBeyond digits).natAbs = 10 ^ digits := rfl

/-- The least number with more digits than are ever written. -/
def overlong : Int := leastBeyond Decimal.maxDigits

theorem not_fits_overlong : ¬Decimal.Fits overlong := by
  rw [Decimal.fits_iff, overlong, natAbs_leastBeyond]
  exact Nat.lt_irrefl _

/-- **Not every refusal tells the parts.**  A port with 4301 digits is out of range, and it cannot be
told that it is. -/
theorem refused_overlong :
    ¬Composes "https".toList (bracketed "h".toList) overlong ∧
      ofParts (.text "https") (.text "h") (.int overlong) = .error (.stray .malformed) ∧
      ∀ problem, ofParts (.text "https") (.text "h") (.int overlong) ≠
        .error (.invalidOrigin (.text "https") (.text "h") (.int overlong) problem) := by
  have outside : ¬Composes "https".toList (bracketed "h".toList) overlong :=
    fun parts => not_fits_overlong (fits_of_isPort parts.port)
  obtain ⟨problem, -, refused⟩ := ofParts_of_not_composes outside
  rw [if_neg not_fits_overlong] at refused
  refine ⟨outside, refused, fun problem told => ?_⟩
  rw [refused] at told
  cases told

end StorageMetadata.Origin
