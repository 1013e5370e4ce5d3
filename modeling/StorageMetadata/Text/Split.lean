/-!
# Splitting a text

`splitAll sep` cuts a text at every `sep`: a piece ends at the first one, and every other character is
in a piece.
-/

namespace StorageMetadata.Text

/-- The pieces of a text between the separators; there is always at least one. -/
def splitAll (sep : Char) : List Char → List (List Char)
  | [] => [[]]
  | c :: rest =>
    if c = sep then [] :: splitAll sep rest
    else match splitAll sep rest with
      | first :: others => (c :: first) :: others
      | [] => [[c]]

theorem splitAll_ne_nil (sep : Char) (cs : List Char) : splitAll sep cs ≠ [] := by
  cases cs with
  | nil => simp [splitAll]
  | cons c rest =>
    unfold splitAll
    split
    · simp
    · split <;> simp

/-- Without a separator there is one piece. -/
theorem splitAll_of_notMem {sep : Char} {cs : List Char} (h : sep ∉ cs) : splitAll sep cs = [cs] := by
  induction cs with
  | nil => rfl
  | cons c rest ih =>
    have other : c ≠ sep := by
      rintro rfl
      exact h List.mem_cons_self
    have tail := ih fun hrest => h (List.mem_cons_of_mem c hrest)
    rw [splitAll, if_neg other, tail]

/-- A piece ends at the first separator. -/
theorem splitAll_append {sep : Char} {part rest : List Char} (h : sep ∉ part) :
    splitAll sep (part ++ sep :: rest) = part :: splitAll sep rest := by
  induction part with
  | nil => rw [List.nil_append, splitAll, if_pos rfl]
  | cons c part ih =>
    have other : c ≠ sep := by
      rintro rfl
      exact h List.mem_cons_self
    have tail := ih fun hc => h (List.mem_cons_of_mem c hc)
    rw [List.cons_append, splitAll, if_neg other, tail]

/-- Every other character is in a piece. -/
theorem exists_mem_splitAll {sep c : Char} {cs : List Char} (hc : c ∈ cs) (other : c ≠ sep) :
    ∃ piece ∈ splitAll sep cs, c ∈ piece := by
  induction cs with
  | nil => cases hc
  | cons d rest ih =>
    unfold splitAll
    by_cases h : d = sep
    · have inner : c ∈ rest := (List.mem_cons.1 hc).resolve_left fun same => other (same.trans h)
      obtain ⟨piece, hpiece, found⟩ := ih inner
      rw [if_pos h]
      exact ⟨piece, List.mem_cons_of_mem [] hpiece, found⟩
    · rw [if_neg h]
      cases hs : splitAll sep rest with
      | nil => exact absurd hs (splitAll_ne_nil sep rest)
      | cons first others =>
        rcases List.mem_cons.1 hc with rfl | inner
        · exact ⟨c :: first, List.mem_cons_self, List.mem_cons_self⟩
        · obtain ⟨piece, hpiece, found⟩ := ih inner
          rw [hs] at hpiece
          rcases List.mem_cons.1 hpiece with rfl | hpiece
          · exact ⟨d :: piece, List.mem_cons_self, List.mem_cons_of_mem d found⟩
          · exact ⟨piece, List.mem_cons_of_mem (d :: first) hpiece, found⟩

end StorageMetadata.Text
