import StorageMetadata.Failure

/-!
# Showing a value

`Value.shown` is the display of a value that can be shown.  Whatever is written into a text for
people or for a resource goes through it, so that a value of the wrong kind is found out there.
-/

namespace StorageMetadata.Value

/-- The value for reading, if it can be shown. -/
def shown (v : Value) : Result String := if v.isShowable then .ok v.display else fault .mistyped

@[simp] theorem shown_text (s : String) : shown (.text s) = .ok s := rfl

@[simp] theorem shown_int (n : Int) : shown (.int n) = .ok (Decimal.write n) := rfl

end StorageMetadata.Value
