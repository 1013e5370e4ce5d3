import StorageMetadata.Sorting.Search

/-!
# Runs

A run is a piece of a list that is in order.  A list is cut into runs from the front: as many items
as are in order already, or in strictly falling order and then reversed, and, if they are few, the
items after them, put one by one where they belong.
-/

namespace StorageMetadata.Sorting

variable {α : Type}

/-- The longest front of which each item follows the one before it, and the rest. -/
def chain (follows : α → α → Bool) (x : α) : List α → List α × List α
  | [] => ([x], [])
  | y :: rest =>
    if follows x y then
      let (items, more) := chain follows y rest
      (x :: items, more)
    else ([x], y :: rest)

/-- The run at the front of a list as it is, and the rest. -/
def naturalRun (less : α → α → Bool) : List α → List α × List α
  | x :: y :: rest =>
    if less y x then
      let (items, more) := chain (fun a b => less b a) x (y :: rest)
      (items.reverse, more)
    else chain (fun a b => !less b a) x (y :: rest)
  | items => (items, [])

/-- A run with one item more, which stands after those that it is not less than. -/
def insert (less : α → α → Bool) (run : List α) (x : α) : List α :=
  let i := border (fun y => !less x y) run.toArray 0 run.length
  run.take i ++ x :: run.drop i

/-- How long each run but the last has to be: as long as a list of fewer than 64 items, and from 32
to 64 items in a longer list, so that the number of runs is a power of two or just below one. -/
def leastLength (size : Nat) : Nat :=
  let unit := Nat.pow 2 (size.log2 - 5)
  (size + unit - 1) / unit

/-- The runs of a list; the fuel is the length of the list. -/
def runs (less : α → α → Bool) (least : Nat) : Nat → List α → List (List α)
  | _, [] => []
  | 0, items => [items]
  | fuel + 1, x :: items =>
    let (run, rest) := naturalRun less (x :: items)
    let missing := least - run.length
    (rest.take missing).foldl (insert less) run :: runs less least fuel (rest.drop missing)

/-! ### Nothing is lost -/

theorem chain_append (follows : α → α → Bool) (x : α) (l : List α) :
    (chain follows x l).1 ++ (chain follows x l).2 = x :: l := by
  induction l generalizing x with
  | nil => rfl
  | cons y rest ih =>
    rw [chain]
    split
    · simp [ih y]
    · rfl

theorem naturalRun_perm (less : α → α → Bool) (l : List α) :
    ((naturalRun less l).1 ++ (naturalRun less l).2).Perm l := by
  unfold naturalRun
  split
  · split
    · exact ((List.reverse_perm _).append_right _).trans (.of_eq (chain_append ..))
    · exact .of_eq (chain_append ..)
  · simp

theorem insert_perm (less : α → α → Bool) (run : List α) (x : α) :
    (insert less run x).Perm (run ++ [x]) := by
  unfold insert
  simp only
  generalize border _ _ _ _ = i
  refine List.perm_middle.trans ?_
  rw [List.take_append_drop]
  exact (List.perm_append_singleton x run).symm

theorem foldl_insert_perm (less : α → α → Bool) (items run : List α) :
    (items.foldl (insert less) run).Perm (run ++ items) := by
  induction items generalizing run with
  | nil => simp
  | cons x items ih =>
    refine (ih _).trans (((insert_perm less run x).append_right items).trans ?_)
    simp

/-- The runs hold the items of the list, each as often as the list. -/
theorem runs_perm (less : α → α → Bool) (least fuel : Nat) (l : List α) :
    (runs less least fuel l).flatten.Perm l := by
  fun_induction runs less least fuel l with
  | case1 => exact .refl _
  | case2 => simp
  | case3 fuel x items run rest h missing ih =>
    have hp := naturalRun_perm less (x :: items)
    rw [h] at hp
    rw [List.flatten_cons]
    refine ((foldl_insert_perm less _ run).append ih).trans ?_
    rw [List.append_assoc, List.take_append_drop]
    exact hp

end StorageMetadata.Sorting
