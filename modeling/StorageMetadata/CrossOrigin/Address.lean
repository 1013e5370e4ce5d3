import StorageMetadata.Text.Split
import StorageMetadata.Text.Digit

/-!
# Numeric addresses

An address of the fourth version is four numbers up to 255 with points between them, each without
leading zeros.  One of the sixth version is eight groups of one to four hexadecimal digits with
colons between them.  The last two groups may be written as an address of the fourth version, and
two colons in a row may stand, once, for one or more groups of zeros.
-/

namespace StorageMetadata.Address

open StorageMetadata.Text

/-- Is the text a number up to 255 without leading zeros? -/
def isOctet (cs : List Char) : Bool :=
  match cs.mapM asciiDigit? with
  | none | some [] => false
  | some (0 :: _ :: _) => false
  | some ds => ds.length ≤ 3 && ds.foldl (fun n d => 10 * n + d) 0 ≤ 255

/-- Is the text an address of the fourth version? -/
def isV4 (cs : List Char) : Bool :=
  let parts := splitAll '.' cs
  parts.length = 4 && parts.all isOctet

/-- Is `c` a hexadecimal digit? -/
def isHex (c : Char) : Bool :=
  ('0' ≤ c && c ≤ '9') || ('a' ≤ c && c ≤ 'f') || ('A' ≤ c && c ≤ 'F')

/-- Is the text a group of one to four hexadecimal digits? -/
def isGroup (cs : List Char) : Bool := 1 ≤ cs.length && cs.length ≤ 4 && cs.all isHex

/-- The groups beside the two colons: the empty text alone stands for no group. -/
def sideCount? (parts : List (List Char)) : Option Nat :=
  if parts = [[]] then some 0
  else if parts.all isGroup then some parts.length
  else none

/-- Do the parts between the colons make an address?  Of the parts that are neither first nor
last, at most one may be empty. -/
def arePartsV6 (parts : List (List Char)) : Bool :=
  match (parts.tail.dropLast).findIdx? (· = []) with
  | none => parts.length = 8 && parts.all isGroup
  | some i => match sideCount? (parts.take (i + 1)), sideCount? (parts.drop (i + 2)) with
    | some before, some after => before + after ≤ 7
    | _, _ => false

/-- Is the text an address of the sixth version? -/
def isV6 (cs : List Char) : Bool :=
  let parts := splitAll ':' cs
  if parts.length < 3 then false
  else
    let last := parts.getLastD []
    if last.contains '.' then isV4 last && arePartsV6 (parts.dropLast ++ [['0'], ['0']])
    else arePartsV6 parts

end StorageMetadata.Address
