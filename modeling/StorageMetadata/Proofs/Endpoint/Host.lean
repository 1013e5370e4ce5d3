import Mathlib.Data.List.DropRight
import StorageMetadata.Endpoint

/-!
# The address of the service settles

The address that the environment names gets a scheme if it holds no `://`, and then loses the slashes
at its end.  Dropping them may take the mark of the scheme away again, the one that was there or the
one that was just put there.  `LosesMark` says for which addresses that is so,

    schemeMark <:+: dropLastSlashes (withScheme cs) ↔ ¬LosesMark cs,

and an address without slashes at its end is kept as it is exactly if it holds the mark.  So what is
kept is kept again, unless the mark was lost.
-/

namespace StorageMetadata.Endpoint

/-- The mark that follows a scheme. -/
def schemeMark : List Char := [':', '/', '/']

/-- Slashes, and nothing else. -/
def slashes (k : Nat) : List Char := List.replicate k '/'

/-- Is the mark of the address lost with the slashes at its end?  It consists of slashes only, so that
those of the scheme put before it are dropped with its own; or its first mark is followed by slashes
only. -/
def LosesMark (cs : List Char) : Prop :=
  (∃ k, cs = slashes k) ∨
    ∃ w k, cs = w ++ schemeMark ++ slashes k ∧ ¬schemeMark <:+: w ++ [':']

variable {cs : List Char}

/-! ### The mark -/

theorem hasSchemeMark_iff : hasSchemeMark cs = true ↔ schemeMark <:+: cs := by
  fun_induction hasSchemeMark cs with
  | case1 rest =>
    have front : schemeMark <+: ':' :: '/' :: '/' :: rest := List.prefix_append schemeMark rest
    exact iff_of_true rfl front.isInfix
  | case2 c rest other ih =>
    rw [ih, List.infix_cons_iff, or_iff_right]
    rintro ⟨more, h⟩
    cases h
    exact other more rfl rfl
  | case3 =>
    refine iff_of_false Bool.false_ne_true fun h => ?_
    cases List.infix_nil.1 h

theorem withScheme_of_marked (h : schemeMark <:+: cs) : withScheme cs = cs :=
  if_pos (hasSchemeMark_iff.2 h)

theorem withScheme_of_unmarked (h : ¬schemeMark <:+: cs) :
    withScheme cs = "http://".toList ++ cs :=
  if_neg (mt hasSchemeMark_iff.1 h)

theorem colon_notMem_slashes (k : Nat) : ':' ∉ slashes k := by
  intro h
  have := List.eq_of_mem_replicate h
  contradiction

theorem not_marked_slashes (k : Nat) : ¬schemeMark <:+: slashes k := by
  intro h
  exact colon_notMem_slashes k (h.mem (by decide))

/-! ### The slashes at the end -/

theorem slashes_succ (k : Nat) : slashes (k + 1) = slashes k ++ ['/'] := List.replicate_succ'

/-- What is left does not end in a slash. -/
theorem dropLastSlashes_spec (cs : List Char) :
    ¬['/'] <:+ dropLastSlashes cs ∧ ∃ k, cs = dropLastSlashes cs ++ slashes k := by
  constructor
  · rintro ⟨front, h⟩
    have kept : cs.rdropWhile (· = '/') = front ++ ['/'] := h.symm
    have last := List.rdropWhile_last_not (· = '/') cs (by rw [kept]; simp)
    simp only [kept, List.getLast_concat, decide_true, not_true_eq_false] at last
  · refine ⟨(cs.rtakeWhile (· = '/')).length, ?_⟩
    have dropped : cs.rtakeWhile (· = '/') = slashes (cs.rtakeWhile (· = '/')).length := by
      refine List.eq_replicate_of_mem fun c hc => ?_
      exact of_decide_eq_true (List.mem_rtakeWhile_imp (p := fun c => decide (c = '/')) hc)
    rw [← dropped]
    exact List.rdropWhile_append_rtakeWhile.symm

theorem dropLastSlashes_eq_self (h : ¬['/'] <:+ cs) : dropLastSlashes cs = cs := by
  apply List.rdropWhile_eq_self_iff.2
  intro nonempty slash
  refine h ⟨cs.dropLast, ?_⟩
  rw [← of_decide_eq_true slash]
  exact List.dropLast_append_getLast nonempty

theorem dropLastSlashes_append (h : ¬['/'] <:+ cs) (k : Nat) :
    dropLastSlashes (cs ++ slashes k) = cs := by
  induction k with
  | zero =>
    rw [slashes, List.replicate_zero, List.append_nil]
    exact dropLastSlashes_eq_self h
  | succ k ih =>
    rw [slashes_succ, ← List.append_assoc]
    exact (List.rdropWhile_concat_pos _ _ _ (by decide)).trans ih

/-- Slashes at the end make a mark of a colon before them. -/
theorem marked_append_slashes (h : ¬['/'] <:+ cs) (k : Nat) :
    schemeMark <:+: cs ++ slashes k ↔ schemeMark <:+: cs ∨ [':'] <:+ cs ∧ 2 ≤ k := by
  rw [List.infix_append_iff_ne_nil, or_iff_right (not_marked_slashes k)]
  refine or_congr_right ⟨?_, ?_⟩
  · -- The mark is cut after its colon, as the text before the slashes ends in none.
    rintro ⟨front, back, hfront, hback, parts, ends, begins⟩
    rcases front with _ | ⟨c, _ | ⟨d, _ | ⟨e, more⟩⟩⟩
    · exact absurd rfl hfront
    · cases parts
      exact ⟨ends, begins.length_le.trans_eq List.length_replicate⟩
    · cases parts
      exact absurd ((List.suffix_append [':'] ['/']).trans ends) h
    · cases more with
      | nil =>
        cases back with
        | nil => exact absurd rfl hback
        | cons _ _ => cases parts
      | cons _ _ => cases parts
  · rintro ⟨ends, two⟩
    refine ⟨[':'], ['/', '/'], by decide, by decide, rfl, ends, ?_⟩
    exact List.prefix_replicate_iff.2 ⟨two, rfl⟩

/-! ### What is kept -/

/-- A text that does not end in a slash does not come to end in one by what is put before it. -/
theorem not_slash_suffix_append (front : List Char) (h : ¬['/'] <:+ cs) (nonempty : cs ≠ []) :
    ¬['/'] <:+ front ++ cs := by
  intro ends
  exact h (List.suffix_of_suffix_length_le ends (List.suffix_append front cs)
    (List.length_pos_iff.2 nonempty))

/-- The mark that an address has is lost if its first mark is followed by slashes only. -/
theorem losesMark_iff_of_marked (h : schemeMark <:+: cs) :
    LosesMark cs ↔ ¬schemeMark <:+: dropLastSlashes cs := by
  obtain ⟨ends, k, hk⟩ := dropLastSlashes_spec cs
  constructor
  · rintro (⟨j, rfl⟩ | ⟨w, j, rfl, unmarked⟩)
    · exact absurd h (not_marked_slashes j)
    · have split : w ++ schemeMark ++ slashes j = w ++ [':'] ++ slashes (2 + j) := by
        simp [schemeMark, slashes, List.replicate_add]
      rwa [split, dropLastSlashes_append (not_slash_suffix_append w (by decide) (by decide))]
  · intro unmarked
    rw [hk, marked_append_slashes ends, or_iff_right unmarked] at h
    obtain ⟨⟨w, hw⟩, two⟩ := h
    obtain ⟨j, rfl⟩ : ∃ j, k = 2 + j := ⟨k - 2, by omega⟩
    refine Or.inr ⟨w, j, ?_, ?_⟩
    · rw [hk, ← hw]
      simp [schemeMark, slashes, List.replicate_add]
    · rwa [hw]

/-- The mark that is put before an address is lost if there is nothing after it but slashes. -/
theorem losesMark_iff_of_unmarked (h : ¬schemeMark <:+: cs) :
    LosesMark cs ↔ ¬schemeMark <:+: dropLastSlashes ("http://".toList ++ cs) := by
  obtain ⟨ends, k, hk⟩ := dropLastSlashes_spec cs
  by_cases empty : dropLastSlashes cs = []
  · rw [empty, List.nil_append] at hk
    have all : "http://".toList ++ cs = "http:".toList ++ slashes (2 + k) := by
      rw [hk, slashes, slashes, List.replicate_add]
      rfl
    refine iff_of_true (Or.inl ⟨k, hk⟩) ?_
    rw [all, dropLastSlashes_append (by decide), ← hasSchemeMark_iff]
    decide
  · have more := dropLastSlashes_append (not_slash_suffix_append "http://".toList ends empty) k
    rw [List.append_assoc, ← hk] at more
    refine iff_of_false ?_ ?_
    · rintro (⟨j, rfl⟩ | ⟨w, j, rfl, -⟩)
      · exact empty (@dropLastSlashes_append [] (by decide) j)
      · exact h (List.infix_append w schemeMark (slashes j))
    · rw [more, not_not]
      exact ⟨"http".toList, _, rfl⟩

/-- **What is kept holds a mark unless the mark is lost.** -/
theorem marked_iff (cs : List Char) :
    schemeMark <:+: dropLastSlashes (withScheme cs) ↔ ¬LosesMark cs := by
  by_cases h : schemeMark <:+: cs
  · rw [withScheme_of_marked h, losesMark_iff_of_marked h, not_not]
  · rw [withScheme_of_unmarked h, losesMark_iff_of_unmarked h, not_not]

/-- Something is kept: a scheme has a colon. -/
theorem dropLastSlashes_withScheme_ne_nil (cs : List Char) :
    dropLastSlashes (withScheme cs) ≠ [] := by
  intro h
  have all := List.rdropWhile_eq_nil_iff.1 h
  have colon : ':' ∈ withScheme cs := by
    by_cases marked : schemeMark <:+: cs
    · rw [withScheme_of_marked marked]
      exact marked.mem (by decide)
    · rw [withScheme_of_unmarked marked]
      exact List.mem_append_left cs (by decide)
  exact absurd (all ':' colon) (by decide)

/-- **What does not end in a slash is kept as it is if it holds a mark**, and only then. -/
theorem dropLastSlashes_withScheme_eq_self_iff (h : ¬['/'] <:+ cs) (nonempty : cs ≠ []) :
    dropLastSlashes (withScheme cs) = cs ↔ schemeMark <:+: cs := by
  by_cases marked : schemeMark <:+: cs
  · rw [withScheme_of_marked marked]
    exact iff_of_true (dropLastSlashes_eq_self h) marked
  · rw [withScheme_of_unmarked marked,
      dropLastSlashes_eq_self (not_slash_suffix_append _ h nonempty)]
    refine iff_of_false (fun same => ?_) marked
    have length := congrArg List.length same
    rw [List.length_append, Nat.add_eq_right] at length
    contradiction

/-! ### Addresses from the environment -/

theorem variableValue?_eq_some {environment : String → Option String} {name v : String}
    (named : environment name = some v) (nonempty : v ≠ "") :
    variableValue? environment name = some v := by
  rw [variableValue?, named]
  exact Option.filter_some_pos (decide_eq_true nonempty)

/-- **The address from the environment settles.**  It never ends in a slash.  Where the environment
names one, the address holds `://`, and is kept as it is when it is read again, exactly if its mark
is not lost. -/
theorem ofEnvironment_host_settles (environment : String → Option String) :
    ∃ host : String, (ofEnvironment environment).host = .text host ∧ ¬['/'] <:+ host.toList ∧
      ∀ v, environment hostVariable = some v → v ≠ "" →
        (schemeMark <:+: host.toList ↔ ¬LosesMark v.toList) ∧
        ∀ again : String → Option String, again hostVariable = some host →
          ((ofEnvironment again).host = .text host ↔ ¬LosesMark v.toList) := by
  refine ⟨normalizeHost ((variableValue? environment hostVariable).getD defaultHost), rfl, ?ends,
    ?settles⟩
  case ends =>
    rw [normalizeHost, String.toList_ofList]
    exact (dropLastSlashes_spec _).1
  case settles =>
    intro v named nonempty
    rw [variableValue?_eq_some named nonempty, Option.getD_some, normalizeHost, String.toList_ofList]
    have kept := dropLastSlashes_withScheme_ne_nil v.toList
    refine ⟨marked_iff v.toList, fun again names => ?_⟩
    have some : String.ofList (dropLastSlashes (withScheme v.toList)) ≠ "" := by
      intro h
      rw [← String.toList_inj, String.toList_ofList] at h
      exact kept h
    have read : (ofEnvironment again).host =
        .text (normalizeHost (String.ofList (dropLastSlashes (withScheme v.toList)))) := by
      rw [ofEnvironment, variableValue?_eq_some names some]
      rfl
    rw [read, ← marked_iff, ← dropLastSlashes_withScheme_eq_self_iff (dropLastSlashes_spec _).1 kept,
      normalizeHost, String.toList_ofList, Value.text.injEq, ← String.toList_inj,
      String.toList_ofList, String.toList_ofList]

/-- An address whose slashes at the end leave its mark alone, and one whose mark they take away: a
second scheme is put before what is left of it. -/
theorem ofEnvironment_host_of_slashes :
    (ofEnvironment fun _ => some "[::1]:9000//").host = .text "http://[::1]:9000" ∧
      (ofEnvironment fun _ => some "http://[::1]:9000").host = .text "http://[::1]:9000" ∧
      (ofEnvironment fun _ => some "gs:///").host = .text "gs:" ∧
      (ofEnvironment fun _ => some "gs:").host ≠ .text "gs:" := by
  obtain ⟨host, kept, -, settles⟩ := ofEnvironment_host_settles fun _ => some "[::1]:9000//"
  obtain ⟨host', kept', -, settles'⟩ := ofEnvironment_host_settles fun _ => some "gs:///"
  have stays : ¬LosesMark "[::1]:9000//".toList := by
    rintro (⟨k, h⟩ | ⟨w, k, h, -⟩)
    · exact colon_notMem_slashes k (h ▸ by decide)
    · have marked : hasSchemeMark "[::1]:9000//".toList = true :=
        hasSchemeMark_iff.2 ⟨w, slashes k, h.symm⟩
      cases marked
  have goes : LosesMark "gs:///".toList := Or.inr ⟨['g', 's'], 1, rfl, by decide⟩
  cases kept.symm.trans (rfl : _ = Value.text "http://[::1]:9000")
  cases kept'.symm.trans (rfl : _ = Value.text "gs:")
  refine ⟨kept, ((settles _ rfl (by decide)).2 _ rfl).2 stays, kept', ?_⟩
  intro same
  exact ((settles' _ rfl (by decide)).2 _ rfl).1 same goes

end StorageMetadata.Endpoint
