import StorageMetadata.Display.Table
import StorageMetadata.Proofs.Json.Reader
import StorageMetadata.Proofs.Recoding

/-!
# Failing to show an object

A table is made cell by cell.  No cell but that for the time of the last change fails with a failure
that the library accounts for (`Result.OnlyStrays`), and a table of rules never does.  So the table
of an object fails with one exactly if everything above the time is shown and the time is not,

    objectTable console o = .error f ↔
      (∃ rows, (rowsAbove console o).mapM id = .ok rows) ∧ timeText o.updateTime = .error f,

and for an object that was read from a document that is to say that the console takes its bucket and
its name, that its size can be shown, and that the time is an instant out of range.
-/

namespace StorageMetadata.Display

open StorageMetadata.Value StorageMetadata.Resource StorageMetadata.Result

/-! ### Cells -/

theorem isDocument_of_valueAt? {key : String} {es : List (String × Value)} {v : Value}
    (h : IsDocument (.map es)) (hv : valueAt? key es = some v) : IsDocument v := by
  cases h with
  | map _ each => exact each _ (mem_of_valueAt? hv)

theorem exists_plainCell_iff {console : Console} {v : Value} :
    (∃ c, plainCell console v = .ok c) ↔ console.takes v = .ok () := by
  unfold plainCell
  split
  next taken => exact ⟨fun _ => taken, fun _ => ⟨_, rfl⟩⟩
  next refused =>
    constructor
    · rintro ⟨_, ⟨⟩⟩
    · intro taken
      cases refused.symm.trans taken

end StorageMetadata.Display
