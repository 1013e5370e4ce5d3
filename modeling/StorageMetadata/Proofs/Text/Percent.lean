import StorageMetadata.Text.Percent

/-!
# A percent-encoded text is read back

A text is encoded octet by octet, so what is written for an octet and how it is read is proved for
one octet with the rest left to read, and carried to a text by induction on its octets:

    percentDecode? (percentEncode s) = some s.

What is written has the form `IsEncoded`: unreserved characters, and percent signs with two
upper-case hexadecimal digits each.  None of the characters that separate the parts of an address is
among them.
-/

namespace StorageMetadata.Text

/-- Is `c` an upper-case hexadecimal digit? -/
def IsUpperHex (c : Char) : Prop := c ∈ "0123456789ABCDEF".toList

/-- Letters, digits, `_`, `.`, `-`, `~`, and percent signs with two upper-case hexadecimal digits. -/
inductive IsEncoded : List Char → Prop
  | nil : IsEncoded []
  | unreserved {c : Char} {rest : List Char} (char : c.isAlphanum = true ∨ c ∈ "_.-~".toList)
      (tail : IsEncoded rest) : IsEncoded (c :: rest)
  | octet {high low : Char} {rest : List Char} (hhigh : IsUpperHex high) (hlow : IsUpperHex low)
      (tail : IsEncoded rest) : IsEncoded ('%' :: high :: low :: rest)

/-! ### One octet -/

theorem upperHexValue?_upperHexDigit : ∀ d < 16, upperHexValue? (upperHexDigit d) = some d := by
  decide

theorem isUpperHex_upperHexDigit : ∀ d < 16, IsUpperHex (upperHexDigit d) := by
  unfold IsUpperHex
  decide

/-- Only characters of ASCII stand for themselves. -/
theorem lt_of_isUnreserved {octet : UInt8} (h : isUnreserved octet = true) : octet.toNat < 128 := by
  have ranges := of_decide_eq_true h
  omega

theorem char_of_isUnreserved : ∀ n < 128, isUnreserved (UInt8.ofNat n) = true →
    (Char.ofNat n).toNat = n ∧ Char.ofNat n ≠ '%' ∧
      ((Char.ofNat n).isAlphanum = true ∨ Char.ofNat n ∈ "_.-~".toList) := by
  decide

theorem unreserved_spec {octet : UInt8} (h : isUnreserved octet = true) :
    (Char.ofNat octet.toNat).toNat = octet.toNat ∧ Char.ofNat octet.toNat ≠ '%' ∧
      ((Char.ofNat octet.toNat).isAlphanum = true ∨ Char.ofNat octet.toNat ∈ "_.-~".toList) := by
  apply char_of_isUnreserved _ (lt_of_isUnreserved h)
  rwa [UInt8.ofNat_toNat]

theorem isEncoded_percentOctet {octet : UInt8} {rest : List Char} (tail : IsEncoded rest) :
    IsEncoded (percentOctet octet ++ rest) := by
  unfold percentOctet
  split
  next unreserved =>
    obtain ⟨_, _, char⟩ := unreserved_spec unreserved
    exact .unreserved char tail
  next =>
    have size := octet.toNat_lt
    have high : octet.toNat / 16 < 16 := by omega
    have low : octet.toNat % 16 < 16 := by omega
    exact .octet (isUpperHex_upperHexDigit _ high) (isUpperHex_upperHexDigit _ low) tail

/-- **An octet is read back**, and what follows it is left to read. -/
theorem percentOctets?_percentOctet (octet : UInt8) (rest : List Char) :
    percentOctets? (percentOctet octet ++ rest) = (percentOctets? rest).map (octet :: ·) := by
  unfold percentOctet
  split
  next unreserved =>
    obtain ⟨value, plain, _⟩ := unreserved_spec unreserved
    rw [List.singleton_append, percentOctets?.eq_3 _ _ fun _ _ _ percent => absurd percent plain]
    simp only [value, lt_of_isUnreserved unreserved, UInt8.ofNat_toNat, unreserved]
    rfl
  next =>
    have size := octet.toNat_lt
    have high : octet.toNat / 16 < 16 := by omega
    have low : octet.toNat % 16 < 16 := by omega
    have value : 16 * (octet.toNat / 16) + octet.toNat % 16 = octet.toNat := by omega
    simp only [List.cons_append, List.nil_append, percentOctets?,
      upperHexValue?_upperHexDigit _ high, upperHexValue?_upperHexDigit _ low,
      Option.bind_eq_bind, Option.bind_some, value, UInt8.ofNat_toNat]
    cases percentOctets? rest <;> rfl

/-! ### A text -/

theorem isEncoded_flatMap (octets : List UInt8) : IsEncoded (octets.flatMap percentOctet) := by
  induction octets with
  | nil => exact .nil
  | cons octet rest ih =>
    rw [List.flatMap_cons]
    exact isEncoded_percentOctet ih

theorem percentOctets?_flatMap (octets : List UInt8) :
    percentOctets? (octets.flatMap percentOctet) = some octets := by
  induction octets with
  | nil => rfl
  | cons octet rest ih => rw [List.flatMap_cons, percentOctets?_percentOctet, ih, Option.map_some]

theorem toList_loop (octets : ByteArray) (i : Nat) (read : List UInt8) :
    ByteArray.toList.loop octets i read = read.reverse ++ octets.data.toList.drop i := by
  fun_induction ByteArray.toList.loop octets i read with
  | case1 i read more ih =>
    have inside : i < octets.data.toList.length := more
    have next : octets.get! i = octets.data.toList[i] := getElem!_pos octets.data i inside
    rw [ih, next, List.drop_eq_getElem_cons inside, List.reverse_cons, List.append_assoc,
      List.singleton_append]
  | case2 i read done =>
    rw [List.drop_eq_nil_of_le (Nat.le_of_not_lt done), List.append_nil]

theorem percentEncode_eq (s : String) :
    percentEncode s = String.ofList (s.toUTF8.data.toList.flatMap percentOctet) := by
  rw [percentEncode, ByteArray.toList, toList_loop]
  rfl

theorem isEncoded_percentEncode (s : String) : IsEncoded (percentEncode s).toList := by
  rw [percentEncode_eq, String.toList_ofList]
  exact isEncoded_flatMap _

/-- **A percent-encoded text is read back.** -/
theorem percentDecode?_percentEncode (s : String) : percentDecode? (percentEncode s) = some s := by
  have octets : percentOctets? (percentEncode s).toList = some s.toUTF8.data.toList := by
    rw [percentEncode_eq, String.toList_ofList, percentOctets?_flatMap]
  simp only [percentDecode?, octets, Option.bind_eq_bind, Option.bind_some]
  exact dif_pos s.isValidUTF8

theorem separator_spec {c : Char} (hc : c ∈ "/?#".toList) :
    c.isAlphanum = false ∧ c ∉ "_.-~".toList ∧ ¬IsUpperHex c ∧ c ≠ '%' := by
  have one : c = '/' ∨ c = '?' ∨ c = '#' := by simpa using hc
  unfold IsUpperHex
  rcases one with rfl | rfl | rfl
  · decide
  · decide
  · decide

/-- No character that ends a part of an address stands in an encoded text. -/
theorem IsEncoded.notMem {cs : List Char} {c : Char} (h : IsEncoded cs) (hc : c ∈ "/?#".toList) :
    c ∉ cs := by
  obtain ⟨notAlphanum, notMark, notHex, notPercent⟩ := separator_spec hc
  induction h with
  | nil => exact List.not_mem_nil
  | unreserved char _ ih =>
    intro found
    rcases List.mem_cons.1 found with rfl | found
    · rcases char with char | char
      · rw [notAlphanum] at char
        cases char
      · exact notMark char
    · exact ih found
  | octet hhigh hlow _ ih =>
    intro found
    rcases List.mem_cons.1 found with percent | found
    · exact notPercent percent
    rcases List.mem_cons.1 found with rfl | found
    · exact notHex hhigh
    rcases List.mem_cons.1 found with rfl | found
    · exact notHex hlow
    · exact ih found

end StorageMetadata.Text
