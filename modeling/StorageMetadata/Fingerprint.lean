import StorageMetadata.Number.Binary64

/-!
# Fingerprints

Values that can be members of a set have a fingerprint, and equal values have equal ones.  The
fingerprint of a number is its residue modulo the prime `2 ^ 61 - 1`, which is defined for
quotients of powers of two as well: the power `2 ^ 61` is one modulo that prime.  The empty text
has the fingerprint of zero, any other text one of its own, and a value with parts the fingerprints
of its parts.
-/

namespace StorageMetadata

/-- What is compared of two members of a set before they are compared themselves. -/
inductive Fingerprint where
  | number (n : Int)
  | text (s : String)
  /-- The fingerprint of nothing. -/
  | absent
  /-- The fingerprint of what is not a number. -/
  | nan (label : Nat)
  /-- The fingerprint of a draft, which no other draft has. -/
  | draft (label : Nat)
  | parts (fs : List Fingerprint)

namespace Fingerprint

mutual

/-- Are two fingerprints equal? -/
def same : Fingerprint → Fingerprint → Bool
  | .number m, .number n => m = n
  | .text s, .text t => s = t
  | .absent, .absent => true
  | .nan a, .nan b => a = b
  | .draft a, .draft b => a = b
  | .parts fs, .parts gs => sameParts fs gs
  | _, _ => false

/-- Are two lists of fingerprints equal? -/
def sameParts : List Fingerprint → List Fingerprint → Bool
  | [], [] => true
  | f :: fs, g :: gs => same f g && sameParts fs gs
  | _, _ => false

end

/-- The prime modulus of the residues. -/
def modulus : Nat := Nat.pow 2 61 - 1

/-- The residue with the sign of the number; minus one gives way to minus two. -/
def ofResidue (negative : Bool) (n : Nat) : Fingerprint :=
  if negative then .number (if n = 1 then -2 else -(n : Int)) else .number n

/-- The fingerprint of an integer. -/
def ofInt (n : Int) : Fingerprint := ofResidue (n < 0) (n.natAbs % modulus)

/-- The fingerprint of a number of 64 bits. -/
def ofFloat : Binary64 → Fingerprint
  | .finite negative m e => ofResidue negative (m * Nat.pow 2 (e % 61).toNat % modulus)
  | .infinite negative => .number (if negative then -314159 else 314159)
  | .nan label => .nan label

/-- The fingerprint of a text. -/
def ofText (s : String) : Fingerprint := if s = "" then .number 0 else .text s

end Fingerprint

end StorageMetadata
