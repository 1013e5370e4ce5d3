/-!
# Searching for a border

Items in order are those that come before a key, and then those that do not.  The border between
them is found by halving, or, where it is thought to be near an item, by steps that grow from
there and halving in the last of them.  If the items are not in order, as they may be with a test
that does not order all of them, what is found is a place where the halving ended.
-/

namespace StorageMetadata.Sorting

variable {α : Type}

/-- Does the item at an index come before the key? -/
def comesBefore (before : α → Bool) (items : Array α) (i : Nat) : Bool := items[i]?.any before

/-- The border from one index to another, by halving. -/
def border (before : α → Bool) (items : Array α) (low high : Nat) : Nat :=
  if low < high then
    let middle := low + (high - low) / 2
    if comesBefore before items middle then border before items (middle + 1) high
    else border before items low middle
  else low
termination_by high - low

/-- The first of the distances one, three, seven and so on where a test fails, or the limit if it
comes first, and the distance before it. -/
def stride (test : Nat → Bool) (limit last next : Nat) : Nat × Nat :=
  if next < limit ∧ test next then stride test limit next (2 * next + 1)
  else (last, min next limit)
termination_by limit - next

/-- The border among all items, by steps from the item at an index. -/
def borderNear (before : α → Bool) (items : Array α) (i : Nat) : Nat :=
  if comesBefore before items i then
    let (last, next) := stride (fun k => comesBefore before items (i + k)) (items.size - i) 0 1
    border before items (i + last + 1) (i + next)
  else
    let (last, next) := stride (fun k => !comesBefore before items (i - k)) (i + 1) 0 1
    border before items (i + 1 - next) (i - last)

end StorageMetadata.Sorting
