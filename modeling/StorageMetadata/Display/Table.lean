import StorageMetadata.Bucket.Resource
import StorageMetadata.Display.Size
import StorageMetadata.Display.Time
import StorageMetadata.Object.Resource
import StorageMetadata.Sorting
import StorageMetadata.Value.Order

/-!
# Tables for people

An object is shown as a table with a row for each of its better known fields, and the rules of a
bucket as a table with a row for each rule.  A field that holds nothing is shown as a dash that
can be told from the text of a dash.  A table is made row by row from the top, and the first cell
that cannot be shown is the failure of the whole.

Tables are drawn, and lines of text are put out, on a `Console`, which is left open here but for one
thing: a text may stand in a cell.
-/

namespace StorageMetadata.Display

/-- What is handed over for one place of a table. -/
inductive Cell where
  /-- A value as it is.  A console may find marks of its own in a text. -/
  | plain (v : Value)
  /-- A text that no marks are looked for in. -/
  | literal (s : String)
  /-- Stands for something that is missing. -/
  | dash

/-- A table with a heading for each column. -/
structure Table where
  columns : List String
  rows : List (List Cell)

/-- What draws tables and puts out lines of text. -/
structure Console where
  /-- Takes a value for a cell, or fails with a fault. -/
  takes : Value → Except Fault Unit
  /-- Draws a table, or fails with a fault. -/
  draw : Table → Except Fault Unit
  /-- Puts out a line, or fails with a fault. -/
  print : String → Except Fault Unit
  takes_text : ∀ s : String, takes (.text s) = .ok ()

/-! ### Cells -/

/-- A cell with a value that may be missing. -/
def optionalCell (v : Value) : Result Cell :=
  if v = .null then .ok .dash else v.shown.map .literal

/-- A cell with a sequence, which may be missing. -/
def sequenceCell (text : Value → Result String) : Option (List Value) → Result Cell
  | none => .ok .dash
  | some items => do return .literal (", ".intercalate (← items.mapM text))

/-- A cell with a value as it is. -/
def plainCell (console : Console) (v : Value) : Result Cell :=
  match console.takes v with
  | .ok _ => .ok (.plain v)
  | .error f => fault f

/-- A cell with a text as it is. -/
def textCell (s : String) : Cell := .plain (.text s)

/-! ### Objects -/

/-- An entry of an access list in few characters. -/
def grantText : Value → Result String
  | .grant g => do return (← g.entity.shown) ++ ":" ++ g.role.name
  | _ => fault .unsupported

/-- A row with a heading of its own. -/
def row (heading : String) (cell : Result Cell) : Result (List Cell) := do
  return [textCell heading, ← cell]

/-- The rows for the access list, if there is one. -/
def aclRows : Option (List Value) → Result (List (List Cell))
  | none => .ok []
  | some grants => do return [← row "ACL" (sequenceCell grantText (some grants))]

/-- The entries of the user's metadata, in the order of their keys. -/
def sortedEntries (entries : List (String × Value)) : List (String × Value) :=
  entries.mergeSort fun a b => decide (a.1 ≤ b.1)

/-- Entries with keys of any kind, in the order of their keys; of several keys each has to be a
number. -/
def sortedKeyed (entries : List (Value × Value)) : Result (List (Value × Value)) :=
  if 1 < entries.length ∧ ¬ entries.all fun e => e.1.isNumber then fault .mistyped
  else .ok (Sorting.sort (fun a b => a.1.less b.1) entries)

/-- The rows for the user's metadata. -/
def metadataRows : Value → Result (List (List Cell))
  | .map entries => (sortedEntries entries).mapM fun (key, v) =>
    row ("metadata." ++ key) (optionalCell v)
  | .keyed entries => do
    (← sortedKeyed entries).mapM fun (key, v) => do
      row ("metadata." ++ (← key.shown)) (optionalCell v)
  | _ => .ok []

/-- The table of an object. -/
def objectTable (console : Console) (o : Object) : Result Table := do
  let fields ← [
    row "Bucket" (plainCell console o.bucket),
    row "Name" (plainCell console o.name),
    row "Size" ((sizeText o.size).map textCell),
    row "Content type" (optionalCell (o.view .contentType)),
    row "Content encoding" (optionalCell (o.view .contentEncoding)),
    row "Cache control" (optionalCell (o.view .cacheControl)),
    row "Generation" (optionalCell o.generation),
    row "Metageneration" (optionalCell o.metageneration),
    row "MD5" (optionalCell (o.view .md5)),
    row "CRC32C" (optionalCell (o.view .crc32c)),
    row "Updated" ((timeText o.updateTime).map textCell),
    row "Owner" (optionalCell o.owner)].mapM id
  let grants ← aclRows o.acl
  let metadata ← metadataRows o.metadata
  return { columns := ["Field", "Value"], rows := fields ++ grants ++ metadata }

/-! ### Rules -/

/-- The cells of a rule; anything else in a list of rules cannot be shown. -/
def ruleCells : Value → Result (List Cell)
  | .rule r => do
    return [← optionalCell r.maxAge, ← sequenceCell Value.shown r.methods,
      ← sequenceCell Value.shown r.origins, ← sequenceCell Value.shown r.responseHeaders]
  | _ => fault .unsupported

/-- The table of the rules of a bucket, numbered from one. -/
def rulesTable (rules : List Value) : Result Table := do
  let rows ← rules.zipIdx.mapM fun (v, i) => do
    return textCell (Decimal.write (i + 1)) :: (← ruleCells v)
  return { columns := ["#", "Max age", "Methods", "Origins", "Response headers"], rows }

end StorageMetadata.Display
