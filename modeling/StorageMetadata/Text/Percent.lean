/-!
# Percent encoding

A text becomes one part of an address by way of its UTF-8 octets: an octet that is the code of an
unreserved character (an ASCII letter, an ASCII digit, or one of `_`, `.`, `-`, `~`) stands for
itself, any other octet is written as a percent sign and two upper-case hexadecimal digits.
`percentDecode?` reads the octets back.
-/

namespace StorageMetadata.Text

/-- Does the octet stand for itself in an address? -/
def isUnreserved (octet : UInt8) : Bool :=
  let n := octet.toNat
  decide (48 ≤ n ∧ n ≤ 57 ∨ 65 ≤ n ∧ n ≤ 90 ∨ 97 ≤ n ∧ n ≤ 122 ∨ n = 95 ∨ n = 46 ∨ n = 45 ∨ n = 126)

/-- The upper-case hexadecimal digit for `d`, for `d` below sixteen. -/
def upperHexDigit (d : Nat) : Char :=
  if d < 10 then Char.ofNat (48 + d) else Char.ofNat (55 + d)

/-- The value of an upper-case hexadecimal digit. -/
def upperHexValue? (c : Char) : Option Nat :=
  if '0' ≤ c ∧ c ≤ '9' then some (c.toNat - 48)
  else if 'A' ≤ c ∧ c ≤ 'F' then some (c.toNat - 55)
  else none

/-- How an octet is written in an address. -/
def percentOctet (octet : UInt8) : List Char :=
  if isUnreserved octet then [Char.ofNat octet.toNat]
  else ['%', upperHexDigit (octet.toNat / 16), upperHexDigit (octet.toNat % 16)]

/-- The text as one part of an address. -/
def percentEncode (s : String) : String :=
  String.ofList (s.toUTF8.toList.flatMap percentOctet)

/-- The octets that an encoded text stands for. -/
def percentOctets? : List Char → Option (List UInt8)
  | [] => some []
  | '%' :: high :: low :: rest => do
    let h ← upperHexValue? high
    let l ← upperHexValue? low
    return UInt8.ofNat (16 * h + l) :: (← percentOctets? rest)
  | c :: rest =>
    if c.toNat < 128 && isUnreserved (UInt8.ofNat c.toNat) then
      (percentOctets? rest).map (UInt8.ofNat c.toNat :: ·)
    else none

/-- The text that an encoded part of an address stands for. -/
def percentDecode? (s : String) : Option String := do
  let octets ← percentOctets? s.toList
  String.fromUTF8? ⟨octets.toArray⟩

end StorageMetadata.Text
