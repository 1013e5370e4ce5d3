import StorageMetadata.Sorting.Search

/-!
# Merging two runs

Two runs next to each other are merged from one end, the front if the first run is not the longer
and the back if it is.  One of them, the *kept* run, holds the item that comes last, and this item
is put there without being compared.  Items are taken one at a time until so many in a row came
from the same run as the *pace* says; then they are taken in chunks, each found by a search for a
border, for as long as chunks are long.  The pace falls with each round of chunks and rises when
they are given up.
-/

namespace StorageMetadata.Sorting

variable {α : Type}

/-- One of the two runs of a merge. -/
inductive Side where
  | kept
  | other
  deriving DecidableEq, Repr

/-- The run beside a run. -/
def Side.opposite : Side → Side
  | .kept => .other
  | .other => .kept

/-- What a round does with a run. -/
inductive Step where
  /-- All items are taken that come before the first one of the opposite run. -/
  | chunk (side : Side)
  | item (side : Side)
  deriving DecidableEq, Repr

/-- How far a merge is. -/
inductive Stage where
  /-- One at a time, after so many items in a row from the kept run, or from the other. -/
  | single (kept other : Nat)
  /-- In a round, with the steps that are left of it; was a chunk long? -/
  | round (steps : List Step) (long : Bool)
  deriving DecidableEq, Repr

/-- A way to merge two runs, each of which is seen from the end that the merge begins at. -/
structure Way (α : Type) where
  /-- Does an item of the other run come before one of the kept run? -/
  otherFirst : α → α → Bool
  /-- How many items of a run come before an item of the opposite one? -/
  ahead : Side → α → List α → Nat
  /-- The run whose chunk begins a round. -/
  lead : Side

/-- From the front: the kept run is the first one. -/
def Way.front (less : α → α → Bool) : Way α where
  otherFirst o k := less o k
  ahead
    | .kept, o, kept => borderNear (fun x => !less o x) kept.toArray 0
    | .other, k, other => borderNear (fun x => less x k) other.toArray 0
  lead := .kept

/-- From the back: the kept run is the second one, and both are reversed. -/
def Way.back (less : α → α → Bool) : Way α where
  otherFirst o k := less k o
  ahead
    | .kept, o, kept =>
      kept.length - borderNear (fun x => less x o) kept.toArray.reverse (kept.length - 1)
    | .other, k, other =>
      other.length - borderNear (fun x => !less k x) other.toArray.reverse (other.length - 1)
  lead := .other

/-- The steps of a round. -/
def Way.steps (w : Way α) : List Step :=
  [.chunk w.lead, .item w.lead.opposite, .chunk w.lead.opposite, .item w.lead]

/-- A chunk of so many items is long. -/
def longChunk : Nat := 7

/-- So many items are taken from a run, and what comes after it. -/
structure Move where
  side : Side
  count : Nat
  stage : Stage
  pace : Nat

/-- The next move, for runs with these first items. -/
def Way.move (w : Way α) (pace : Nat) (k o : α) (kept other : List α) : Stage → Move
  | .single ks os =>
    let after (n : Nat) (stage : Stage) : Stage := if pace ≤ n then .round w.steps false else stage
    if w.otherFirst o k then ⟨.other, 1, after (os + 1) (.single 0 (os + 1)), pace⟩
    else ⟨.kept, 1, after (ks + 1) (.single (ks + 1) 0), pace⟩
  | .round [] long =>
    if long then ⟨.kept, 0, .round w.steps false, max 1 (pace - 1)⟩
    else ⟨.kept, 0, .single 0 0, pace + 1⟩
  | .round (.item side :: steps) long => ⟨side, 1, .round steps long, pace⟩
  | .round (.chunk side :: steps) long =>
    let count := match side with
      | .kept => w.ahead .kept o kept
      | .other => w.ahead .other k other
    ⟨side, count, .round steps (long || decide (longChunk ≤ count)), pace⟩

/-- The merged items and the pace that is left; the fuel bounds the number of moves. -/
def Way.merge (w : Way α) : Nat → Stage → Nat → List α → List α → List α × Nat
  | fuel + 1, stage, pace, k :: k' :: kept, o :: other =>
    let m := w.move pace k o (k :: k' :: kept) (o :: other) stage
    match m.side with
    | .kept =>
      let (merged, left) :=
        w.merge fuel m.stage m.pace ((k :: k' :: kept).drop m.count) (o :: other)
      ((k :: k' :: kept).take m.count ++ merged, left)
    | .other =>
      let (merged, left) :=
        w.merge fuel m.stage m.pace (k :: k' :: kept) ((o :: other).drop m.count)
      ((o :: other).take m.count ++ merged, left)
  | _, _, pace, kept, other => (other ++ kept, pace)

/-- The merge of two runs of which the other one's first item is known to come first. -/
def Way.start (w : Way α) (pace : Nat) (kept other : List α) : List α × Nat :=
  let (merged, left) :=
    w.merge (5 * (kept.length + other.length)) (.single 0 0) pace kept (other.drop 1)
  (other.take 1 ++ merged, left)

/-- Two runs as one: from the front if the first is not the longer one, else from the back. -/
def mergeFromEnd (less : α → α → Bool) (pace : Nat) (first second : List α) : List α × Nat :=
  if second.isEmpty then (first, pace)
  else if first.length ≤ second.length then (Way.front less).start pace first second
  else
    let (reversed, left) := (Way.back less).start pace second.reverse first.reverse
    (reversed.reverse, left)

/-- Two runs as one, under a pace that is kept from one merge to the next.  Items at the front of
the first run and at the back of the second that are in their places already are left there. -/
def mergeRuns (less : α → α → Bool) (first second : List α) : StateM Nat (List α) := fun pace =>
  let i := second.head?.elim first.length fun s =>
    borderNear (fun x => !less s x) first.toArray 0
  let rest := first.drop i
  let j := rest.getLast?.elim 0 fun l =>
    borderNear (fun x => less x l) second.toArray (second.length - 1)
  let (merged, left) := mergeFromEnd less pace rest (second.take j)
  (first.take i ++ merged ++ second.drop j, left)

/-! ### Nothing is lost -/

theorem merge_perm (w : Way α) (fuel : Nat) (stage : Stage) (pace : Nat) (kept other : List α) :
    (w.merge fuel stage pace kept other).1.Perm (kept ++ other) := by
  fun_induction Way.merge w fuel stage pace kept other with
  | case1 fuel stage pace k k' kept o other m hm merged left h ih =>
    rw [h] at ih
    refine (ih.append_left _).trans ?_
    rw [← List.append_assoc, List.take_append_drop]
  | case2 fuel stage pace k k' kept o other m hm merged left h ih =>
    rw [h] at ih
    refine (ih.append_left _).trans ?_
    rw [← List.append_assoc]
    refine (List.perm_append_comm.append_right _).trans ?_
    rw [List.append_assoc, List.take_append_drop]
  | case3 => exact List.perm_append_comm

theorem start_perm (w : Way α) (pace : Nat) (kept other : List α) :
    (w.start pace kept other).1.Perm (kept ++ other) := by
  refine ((merge_perm w _ _ _ kept (other.drop 1)).append_left _).trans ?_
  refine (List.perm_append_comm_assoc ..).trans ?_
  rw [List.take_append_drop]

theorem mergeFromEnd_perm (less : α → α → Bool) (pace : Nat) (first second : List α) :
    (mergeFromEnd less pace first second).1.Perm (first ++ second) := by
  unfold mergeFromEnd
  split
  case isTrue h => rw [List.isEmpty_iff.1 h, List.append_nil]
  case isFalse =>
    split
    · exact start_perm ..
    · refine (List.reverse_perm _).trans ((start_perm ..).trans ?_)
      exact List.perm_append_comm.trans
        ((List.reverse_perm first).append (List.reverse_perm second))

theorem mergeRuns_perm (less : α → α → Bool) (first second : List α) (pace : Nat) :
    (mergeRuns less first second pace).1.Perm (first ++ second) := by
  unfold mergeRuns
  simp only
  generalize Option.elim second.head? _ _ = i
  generalize Option.elim (first.drop i).getLast? _ _ = j
  rw [List.append_assoc]
  refine (((mergeFromEnd_perm less pace _ _).append_right _).append_left _).trans ?_
  rw [List.append_assoc, List.take_append_drop, ← List.append_assoc, List.take_append_drop]

end StorageMetadata.Sorting
