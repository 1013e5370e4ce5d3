import StorageMetadata.Sorting.Merge
import StorageMetadata.Sorting.Run

/-!
# Sorting

`sort` is a stable sort that makes use of what is in order already: it cuts a list into runs and
merges neighbours until one run is left.  Which neighbours are merged first is decided by where the
borders between them lie, so that runs of like length meet.

The order of the result is the only stable one if the test orders all items.  A number that is
not a number is neither less than any other nor greater, and then the result depends on which items
are compared; that is why the comparisons are fixed here, one by one.
-/

namespace StorageMetadata.Sorting

variable {α : Type}

/-- The depth of the border between two runs: how often the list has to be halved before the
middles of the runs are apart. -/
def depth (size start first second : Nat) : Nat :=
  let here := 2 * start + first
  let there := here + first + second
  let part (middle p : Nat) : Nat := middle * Nat.pow 2 p / size
  ((List.range (size.log2 + 2)).find? fun p => part here p ≠ part there p).getD 0

/-- The last run, after it was merged with the runs below it whose borders are deeper than a new
one, and the runs that are left. -/
def settle (less : α → α → Bool) (new : Nat) (last : List α) :
    List (List α × Nat) → StateM Nat (List α × List (List α × Nat))
  | [] => return (last, [])
  | (run, border) :: below =>
    if new < border then do settle less new (← mergeRuns less run last) below
    else return (last, (run, border) :: below)

/-- All runs as one, from the last to the first; of two neighbours the shorter is merged with the
run between them. -/
def finish (less : α → α → Bool) (last : List α) : List (List α) → StateM Nat (List α)
  | [] => return last
  | [run] => mergeRuns less run last
  | run :: first :: below =>
    if first.length < last.length then do finish less last ((← mergeRuns less first run) :: below)
    else do finish less (← mergeRuns less run last) (first :: below)
termination_by below => below.length

/-- All runs as one: the last one so far and where it starts, those below it, each with the depth
of the border behind it, and those to come. -/
def arrange (less : α → α → Bool) (size start : Nat) (last : List α)
    (below : List (List α × Nat)) : List (List α) → StateM Nat (List α)
  | [] => finish less last (below.map (·.1))
  | next :: more => do
    let new := depth size start last.length next.length
    let (settled, below) ← settle less new last below
    arrange less size (start + last.length) next ((settled, new) :: below) more

/-- The items in order, under a test that says if one is less than another. -/
def sort (less : α → α → Bool) (items : List α) : List α :=
  match runs less (leastLength items.length) items.length items with
  | [] => []
  | first :: more => (arrange less items.length 0 first [] more longChunk).1

/-! ### Nothing is lost -/

theorem mergeRuns_append_perm (less : α → α → Bool) (run last rest : List α) (pace : Nat) :
    ((mergeRuns less run last pace).1 ++ rest).Perm (last ++ (run ++ rest)) := by
  refine ((mergeRuns_perm less run last pace).append_right rest).trans ?_
  rw [← List.append_assoc]
  exact List.perm_append_comm.append_right rest

theorem settle_perm (less : α → α → Bool) (new : Nat) (last : List α)
    (below : List (List α × Nat)) (pace : Nat) :
    ((settle less new last below pace).1.1 ++
      ((settle less new last below pace).1.2.map (·.1)).flatten).Perm
      (last ++ (below.map (·.1)).flatten) := by
  fun_induction settle less new last below generalizing pace with
  | case1 => exact .refl _
  | case2 last run border below h ih =>
    exact (ih (mergeRuns less run last pace).1 _).trans (mergeRuns_append_perm ..)
  | case3 => exact .refl _

theorem finish_perm (less : α → α → Bool) (last : List α) (below : List (List α)) (pace : Nat) :
    (finish less last below pace).1.Perm (last ++ below.flatten) := by
  fun_induction finish less last below generalizing pace with
  | case1 last =>
    rw [List.flatten_nil, List.append_nil]
    exact .refl _
  | case2 last run =>
    rw [List.flatten_singleton]
    exact (mergeRuns_perm ..).trans List.perm_append_comm
  | case3 last run first below h ih =>
    refine (ih (mergeRuns less first run pace).1 _).trans (.append_left last ?_)
    exact mergeRuns_append_perm ..
  | case4 last run first below h ih =>
    exact (ih (mergeRuns less run last pace).1 _).trans (mergeRuns_append_perm ..)

theorem arrange_perm (less : α → α → Bool) (size start : Nat) (last : List α)
    (below : List (List α × Nat)) (more : List (List α)) (pace : Nat) :
    (arrange less size start last below more pace).1.Perm
      (last ++ (below.map (·.1)).flatten ++ more.flatten) := by
  fun_induction arrange less size start last below more generalizing pace with
  | case1 start last below =>
    rw [List.flatten_nil, List.append_nil]
    exact finish_perm ..
  | case2 start last below next more new ih =>
    refine (ih (settle less new last below pace).1.1
      (settle less new last below pace).1.2 _).trans ?_
    rw [List.flatten_cons, ← List.append_assoc]
    refine .append_right _ (List.perm_append_comm.trans ?_)
    exact (settle_perm ..).append_right next

/-- Sorting keeps the items, each as often as it was there. -/
theorem sort_perm (less : α → α → Bool) (items : List α) : (sort less items).Perm items := by
  have h := runs_perm less (leastLength items.length) items.length items
  unfold sort
  cases hr : runs less (leastLength items.length) items.length items with
  | nil => rw [hr] at h; exact h
  | cons first more =>
    rw [hr] at h
    refine (arrange_perm ..).trans ?_
    rw [List.map_nil, List.flatten_nil, List.append_nil]
    exact h

end StorageMetadata.Sorting
