/-!
# Decimal digits of all scripts

A script with decimal digits holds them as ten neighbours in ascending order, so the table lists the
zeros only.  `digit?` reads one character:

    digit? c = some d  when  c is the d-th neighbour of a zero.

Of the digits, only the ten of ASCII are written.
-/

namespace StorageMetadata.Text

/-- The code points of the characters that stand for zero in a decimal notation. -/
def digitZeros : List Nat := [
  0x30, 0x660, 0x6f0, 0x7c0, 0x966, 0x9e6, 0xa66, 0xae6, 0xb66, 0xbe6, 0xc66, 0xce6, 0xd66, 0xde6,
  0xe50, 0xed0, 0xf20, 0x1040, 0x1090, 0x17e0, 0x1810, 0x1946, 0x19d0, 0x1a80, 0x1a90, 0x1b50,
  0x1bb0, 0x1c40, 0x1c50, 0xa620, 0xa8d0, 0xa900, 0xa9d0, 0xa9f0, 0xaa50, 0xabf0, 0xff10, 0x104a0,
  0x10d30, 0x11066, 0x110f0, 0x11136, 0x111d0, 0x112f0, 0x11450, 0x114d0, 0x11650, 0x116c0,
  0x11730, 0x118e0, 0x11950, 0x11c50, 0x11d50, 0x11da0, 0x16a60, 0x16ac0, 0x16b50, 0x1d7ce,
  0x1d7d8, 0x1d7e2, 0x1d7ec, 0x1d7f6, 0x1e140, 0x1e2f0, 0x1e950, 0x1fbf0
]

/-- Is `n` one of the ten code points that start at `first`? -/
def inDecade (n first : Nat) : Bool := first ≤ n && n < first + 10

/-- The value of a decimal digit, in any script. -/
def digit? (c : Char) : Option Nat :=
  (digitZeros.find? (inDecade c.toNat)).map (c.toNat - ·)

/-- The value of one of the ten ASCII digits. -/
def asciiDigit? (c : Char) : Option Nat :=
  if '0' ≤ c ∧ c ≤ '9' then some (c.toNat - '0'.toNat) else none

/-- The ASCII digit that stands for `d`, for `d` below ten. -/
def digitChar (d : Nat) : Char := Char.ofNat ('0'.toNat + d)

/-- A digit of any script has a value below ten. -/
theorem digit?_lt {c : Char} {d : Nat} (h : digit? c = some d) : d < 10 := by
  obtain ⟨first, found, rfl⟩ := Option.map_eq_some_iff.1 h
  have near := List.find?_some found
  simp only [inDecade, Bool.and_eq_true, decide_eq_true_eq] at near
  omega

/-- The digits that are written read back, in both readings. -/
theorem digit?_digitChar : ∀ d : Fin 10, digit? (digitChar d) = some d.val ∧
    asciiDigit? (digitChar d) = some d.val := by
  decide

end StorageMetadata.Text
