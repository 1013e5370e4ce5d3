import StorageMetadata.Json.Reader
import StorageMetadata.Notice
import StorageMetadata.Text.Newline

/-!
# Loading a resource

A file is loaded in four steps: its octets are read, decoded as a text, parsed as a document, and
the document has to be a map.  The text may end its lines in any of the three ways, and the line
on which a document goes wrong is told.  How octets are read is left open, as a function from
paths to octets, and so is how many lists and maps may stand within each other, since that depends on
how much room whoever loads the file has left.

A map may hold half of a pair of code units on its own, in a text or in a key, where a file has only
one of the two escapes.  There is no such text here, and so no such map.  The form of the document is
looked at first, with all its mistakes; only then does a file with such a map come to a fault of its
own, and what would come of the map is left open.
-/

namespace StorageMetadata.Source

/-- The name of the kind of a value of a document. -/
def kindName : Value → String
  | .null => "NoneType"
  | .bool _ => "bool"
  | .int _ => "int"
  | .float _ => "float"
  | .text _ => "str"
  | .list _ => "list"
  | .map _ | .keyed _ => "dict"
  | _ => "object"

/-- The octets at a path.  No file has a path with a character of code zero in it. -/
def octets (read : Path → Except Fault ByteArray) (path : Path) : Result ByteArray :=
  if '\x00' ∈ path.write.toList then fault .malformed
  else match read path with
    | .ok found => .ok found
    | .error f => .error (.load (.unreadable f) path none)

/-- The text that octets encode, with every line ended by a line feed. -/
def decodeText (found : ByteArray) : Result (List Char) :=
  match String.fromUTF8? found with
  | some s => .ok (Text.normalizeNewlines s.toList)
  | none => fault .undecodable

/-- What was read of a text, or why it was not.  A number that is too long is not a mistake of the
document's form, and nor are too many values within values. -/
def parsed (path : Path) (cs : List Char) : Json.Step Value → Result Value
  | .ok v => .ok v
  | .error ⟨.tooManyDigits, _⟩ => fault .malformed
  | .error ⟨.tooDeep, _⟩ => fault .tooDeep
  | .error ⟨.loneHalf, _⟩ => fault .loneHalf
  | .error ⟨p, rest⟩ => .error (.load (.notADocument p) path (some (Text.lineAt cs rest : Nat)))

/-- The resource that a text holds; it has to be a map. -/
def resource (levels : Nat) (path : Path) (cs : List Char) : Result Value := do
  match ← parsed path cs (Json.check levels cs) with
  | .map _ => parsed path cs (Json.read levels cs)
  | v => .error (.load (.notAMap (kindName v)) path none)

/-- The resource in the file at a path, where `levels` lists and maps may stand within each other. -/
def load (levels : Nat) (read : Path → Except Fault ByteArray) (path : Path) : Traced Value := do
  let found ← octets read path
  let cs ← decodeText found
  let v ← resource levels path cs
  Traced.remark (.loaded path)
  return v

end StorageMetadata.Source
