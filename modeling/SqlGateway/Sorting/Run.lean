import SqlGateway.Sorting.Small

/-!
# Sorting by runs

A list is cut into runs, each sorted or still to be sorted, and neighbouring runs are joined in an
order in which the whole becomes a balanced tree.  A long stretch that is sorted already, or is
sorted the other way round, is a run.
-/

namespace SqlGateway.Sorting

variable {α : Type} (less : α → α → Bool)

/-- A stretch of a list, sorted or still to be sorted. -/
structure Run (α : Type) where
  isSorted : Bool
  items : List α

/-! ### Cutting -/

/-- The items in front that each stand in a relation to the one before. -/
def spanRun (goesOn : α → α → Bool) (last : α) : List α → List α
  | [] => []
  | item :: rest => if goesOn last item then item :: spanRun goesOn item rest else []

/-- The stretch in front that is sorted, or strictly sorted the other way round and then turned. -/
def naturalRun : List α → List α
  | first :: second :: rest =>
    if less second first then
      (first :: second :: spanRun (fun a b => less b a) second rest).reverse
    else first :: second :: spanRun (fun a b => !less b a) second rest
  | items => items

/-- The first run of a list: a natural run if it has `enough` items, else some items sorted at once
if `eager`, and left as they are if not. -/
def firstRun? (eager : Bool) (enough : Nat) (items : List α) : Option (Run α) :=
  let natural := naturalRun less items
  if enough ≤ items.length ∧ enough ≤ natural.length then
    some { isSorted := true, items := natural }
  else if eager then
    (sortShort? less (items.take shortLength)).map fun run => { isSorted := true, items := run }
  else some { isSorted := false, items := items.take enough }

/-- The runs of a list. -/
def runs? (eager : Bool) (enough : Nat) : List α → Option (List (Run α))
  | [] => some []
  | first :: rest => do
    let run ← firstRun? less eager enough (first :: rest)
    let others ← runs? eager enough (rest.drop (run.items.length - 1))
    return run :: others
termination_by items => items.length
decreasing_by
  simp only [List.length_drop, List.length_cons]
  omega

/-- The square root of a number, roughly: a power of two next to it and one step towards it. -/
def roughRoot (n : Nat) : Nat :=
  let shift := (1 + n.log2) / 2
  (Nat.pow 2 shift + n / Nat.pow 2 shift) / 2

/-- The number of items that make a natural run worth keeping. -/
def enoughFor (length : Nat) : Nat :=
  if length ≤ 64 * 64 then min (length - length / 2) 64 else roughRoot length

/-! ### Joining -/

/-- The items of a run sorted, as `sort?` does if they are not yet. -/
def Run.finish? (sort? : List α → Option (List α)) (run : Run α) : Option (List α) :=
  if run.isSorted then some run.items else sort? run.items

/-- Two neighbouring runs as one.  They are merged unless both are still to be sorted and together
are no longer than what there is room to sort. -/
def Run.join? (sort? : List α → Option (List α)) (room : Nat) (left right : Run α) :
    Option (Run α) :=
  if room < left.items.length + right.items.length ∨ left.isSorted ∨ right.isSorted then do
    let first ← left.finish? sort?
    let second ← right.finish? sort?
    return { isSorted := true, items := merge less first second }
  else some { isSorted := false, items := left.items ++ right.items }

/-- How deep in a balanced tree over `length` items two runs are joined, of which the first goes
from `start` to `middle` and the second from there to `stop`. -/
def joinDepth (length start middle stop : Nat) : Nat :=
  let scale := (Nat.pow 2 62 + length - 1) / length
  63 - ((scale * (start + middle)) ^^^ (scale * (middle + stop))).log2

/-- Joins a run with those before it, last one first, that are to be joined at least at the given
depth. -/
def joinBefore? (sort? : List α → Option (List α)) (room depth : Nat) :
    List (Run α × Nat) → Run α → Option (List (Run α × Nat) × Run α)
  | [], run => some ([], run)
  | (left, leftDepth) :: before, run =>
    if depth ≤ leftDepth then do
      joinBefore? sort? room depth before (← left.join? less sort? room run)
    else some ((left, leftDepth) :: before, run)

/-- Joins the runs of a list of `length` items: those before, last one first and each with its
depth, the present one, which goes as far as `middle`, and those behind. -/
def joinAll? (sort? : List α → Option (List α)) (room length : Nat) :
    List (Run α × Nat) → Run α → Nat → List (Run α) → Option (Run α)
  | before, run, _, [] => do
    let (_, whole) ← joinBefore? less sort? room 0 before run
    return whole
  | before, run, middle, next :: behind => do
    let stop := middle + next.items.length
    let depth := joinDepth length (middle - run.items.length) middle stop
    let (before, run) ← joinBefore? less sort? room depth before run
    joinAll? sort? room length ((run, depth) :: before) next stop behind

/-- Sorts by runs, and runs that are still to be sorted as `sort?` does. -/
def sortRuns? (sort? : List α → Option (List α)) (room : Nat) (eager : Bool) (items : List α) :
    Option (List α) := do
  match ← runs? less eager (enoughFor items.length) items with
  | [] => return []
  | first :: rest =>
    let whole ← joinAll? less sort? room items.length [] first first.items.length rest
    whole.finish? sort?

end SqlGateway.Sorting
