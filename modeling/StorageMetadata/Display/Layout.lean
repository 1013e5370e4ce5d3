import StorageMetadata.Display.Table

/-!
# Laying a table out

A table is written line by line, with every cell but the last of its line filled up with spaces to
the width of its column, and two more spaces between columns.
-/

namespace StorageMetadata.Display

/-- The text of a cell; a dash is shown as such. -/
def Cell.write : Cell → String
  | .plain v => v.display
  | .literal s => s
  | .dash => "-"

/-- The texts of a table by line, the headings first. -/
def Table.texts (t : Table) : List (List String) := t.columns :: t.rows.map (·.map Cell.write)

/-- The length of the longest text in a column. -/
def columnWidth (lines : List (List String)) (column : Nat) : Nat :=
  lines.foldl (fun width line => max width (line.getD column "").length) 0

/-- The text with spaces after it up to a width. -/
def fill (width : Nat) (s : String) : String :=
  s ++ String.ofList (List.replicate (width - s.length) ' ')

/-- One line, given the widths of its columns. -/
def layLine (widths : List Nat) (line : List String) : String :=
  "  ".intercalate (line.mapIdx fun i s =>
    if i + 1 = line.length then s else fill (widths.getD i 0) s)

/-- The lines of a table. -/
def Table.lines (t : Table) : List String :=
  let widths := (List.range t.columns.length).map (columnWidth t.texts)
  t.texts.map (layLine widths)

/-- A console for tables that are laid out like this: it takes texts only, and every table can be
drawn and every line put out. -/
def plainConsole : Console where
  takes
    | .text _ => .ok ()
    | _ => .error .unrenderable
  draw _ := .ok ()
  print _ := .ok ()
  takes_text _ := rfl

end StorageMetadata.Display
