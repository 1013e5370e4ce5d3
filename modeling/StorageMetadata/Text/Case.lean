/-!
# Letter case

Names are compared after a change of case.  Only names in ASCII letters are ever looked up, so a
character matters only when its other case is made of ASCII letters: the ASCII letters themselves
and, beyond ASCII, the dotless and the long letters and the ligatures for the upper case, and the
sign of the unit kelvin for the lower case.  Every other character stays as it is.
-/

namespace StorageMetadata.Text

/-- The upper case of `c`, as far as it is made of ASCII letters. -/
def upperCase (c : Char) : List Char :=
  if 'a' ≤ c ∧ c ≤ 'z' then [Char.ofNat (c.toNat - 32)]
  else match c.toNat with
    | 0xdf => ['S', 'S']
    | 0x131 => ['I']
    | 0x17f => ['S']
    | 0xfb00 => ['F', 'F']
    | 0xfb01 => ['F', 'I']
    | 0xfb02 => ['F', 'L']
    | 0xfb03 => ['F', 'F', 'I']
    | 0xfb04 => ['F', 'F', 'L']
    | 0xfb05 => ['S', 'T']
    | 0xfb06 => ['S', 'T']
    | _ => [c]

/-- The lower case of `c`, as far as it is an ASCII letter. -/
def lowerCase (c : Char) : Char :=
  if 'A' ≤ c ∧ c ≤ 'Z' then Char.ofNat (c.toNat + 32)
  else if c.toNat = 0x212a then 'k'
  else c

/-- The text in upper case. -/
def upper (s : String) : String := String.ofList (s.toList.flatMap upperCase)

/-- The text in lower case. -/
def lower (s : String) : String := String.ofList (s.toList.map lowerCase)

end StorageMetadata.Text
