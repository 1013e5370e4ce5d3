/-!
# Line ends

A file may end its lines with a line feed, a carriage return, or both in this order.
`normalizeNewlines` turns each of the three into one line feed, and a position in a text belongs to
the line whose number is one more than the line feeds before it.
-/

namespace StorageMetadata.Text

/-- The text with every line end written as a line feed. -/
def normalizeNewlines : List Char → List Char
  | [] => []
  | '\r' :: '\n' :: rest => '\n' :: normalizeNewlines rest
  | '\r' :: rest => '\n' :: normalizeNewlines rest
  | c :: rest => c :: normalizeNewlines rest

/-- The number of the line on which `rest` begins, where `rest` is an end of `text`. -/
def lineAt (text rest : List Char) : Nat :=
  1 + (text.count '\n' - rest.count '\n')

/-- A text without carriage returns has its lines ended already. -/
theorem normalizeNewlines_eq_self {cs : List Char} (h : '\r' ∉ cs) : normalizeNewlines cs = cs := by
  induction cs with
  | nil => rfl
  | cons c rest ih =>
    have hc : c ≠ '\r' := fun e => h (e ▸ List.mem_cons_self)
    have hr : '\r' ∉ rest := fun m => h (List.mem_cons_of_mem _ m)
    unfold normalizeNewlines
    split
    · rename_i e; cases e
    · rename_i e; exact absurd (List.cons.inj e).1 hc
    · rename_i e; exact absurd (List.cons.inj e).1 hc
    · rename_i e; obtain ⟨rfl, rfl⟩ := List.cons.inj e; rw [ih hr]

end StorageMetadata.Text
