/-!
# Blank characters around a number

A number may be surrounded by blanks: the six blank characters of ASCII (tab, line feed, vertical
tab, form feed, carriage return, space) and, beyond ASCII, every character with the white-space
property.  The four ASCII separators 0x1c to 0x1f are not blanks here.

`strip` drops the blanks at both ends.
-/

namespace StorageMetadata.Text

/-- The blank characters beyond ASCII. -/
def wideBlanks : List Nat := [
  0x85, 0xa0, 0x1680, 0x2000, 0x2001, 0x2002, 0x2003, 0x2004, 0x2005, 0x2006, 0x2007, 0x2008,
  0x2009, 0x200a, 0x2028, 0x2029, 0x202f, 0x205f, 0x3000
]

/-- May `c` stand around a number? -/
def isBlank (c : Char) : Bool :=
  decide (c.toNat = 32 ∨ 9 ≤ c.toNat ∧ c.toNat ≤ 13) || wideBlanks.contains c.toNat

/-- The text without the blanks at its ends. -/
def strip (cs : List Char) : List Char :=
  ((cs.dropWhile isBlank).reverse.dropWhile isBlank).reverse

/-- A text that neither starts nor ends with a blank stays as it is. -/
theorem strip_eq_self {cs : List Char} (first : ∀ c ∈ cs.head?, isBlank c = false)
    (last : ∀ c ∈ cs.getLast?, isBlank c = false) : strip cs = cs := by
  have front : ∀ {l : List Char}, (∀ c ∈ l.head?, isBlank c = false) → l.dropWhile isBlank = l := by
    intro l h
    cases l with
    | nil => rfl
    | cons a r => rw [List.dropWhile_cons, if_neg (by simp [h a (by simp)])]
  rw [strip, front first, front (by simpa using last), List.reverse_reverse]

end StorageMetadata.Text
