/-!
# What can be wrong with a document

The reader stops at the first character that cannot be read and names the reason; where it stopped
is told by what is left of the text from that character on.
-/

namespace StorageMetadata.Json

/-- Why a document cannot be read. -/
inductive Problem where
  /-- The text begins with a byte-order mark. -/
  | byteOrderMark
  | value
  | propertyName
  | colon
  | comma
  /-- Something follows the value. -/
  | extraData
  | unterminatedString
  | controlCharacter
  | escape
  | codeEscape
  /-- An integer has more digits than a number may have. -/
  | tooManyDigits
  /-- There are more values within values than a document may have. -/
  | tooDeep
  /-- An escape stands for half of a pair of code units, and the other half is missing. -/
  | loneHalf
  deriving DecidableEq, Repr

/-- The reason in words. -/
def Problem.message : Problem → String
  | .byteOrderMark => "Unexpected UTF-8 BOM (decode using utf-8-sig)"
  | .value => "Expecting value"
  | .propertyName => "Expecting property name enclosed in double quotes"
  | .colon => "Expecting ':' delimiter"
  | .comma => "Expecting ',' delimiter"
  | .extraData => "Extra data"
  | .unterminatedString => "Unterminated string starting at"
  | .controlCharacter => "Invalid control character at"
  | .escape => "Invalid \\escape"
  | .codeEscape => "Invalid \\uXXXX escape"
  | .tooManyDigits => "Exceeds the limit for integer string conversion"
  | .tooDeep => "Exceeds the limit for nested values"
  | .loneHalf => "Half of a pair of code units on its own"

/-- Why and where reading stopped: `rest` is the text from the offending character on. -/
structure Trouble where
  problem : Problem
  rest : List Char
  deriving DecidableEq, Repr

end StorageMetadata.Json
