import AuditTrail.Sorting.Merge

/-!
# Sorting by a less-than

`Sorting.sortByM lt reverse xs` sorts as the runtime's adaptive, stable list sort does, asking
only `lt` in a monad, so that a question that cannot be answered stops it where the runtime
stops.
-/

namespace AuditTrail.Sorting

variable {α : Type} {m : Type → Type} [Monad m]

/-- Where binary search puts `x` among the items `[lo, hi)` of a sorted list: after every item
it is not before. -/
def insertionPoint (lt : α → α → m Bool) (sorted : List α) (x : α) (lo hi : Nat) : m Nat :=
  if _h : lo < hi then
    let p := lo + (hi - lo) / 2
    match sorted[p]? with
    | some y => do
      if ← lt x y then insertionPoint lt sorted x lo p
      else insertionPoint lt sorted x (p + 1) hi
    | none => pure lo
  else pure lo
termination_by hi - lo

def binaryInsertAll (lt : α → α → m Bool) (sorted : List α) : List α → m (List α)
  | [] => pure sorted
  | x :: xs => do
    let i ← insertionPoint lt sorted x 0 sorted.length
    binaryInsertAll lt (sorted.insertIdx i x) xs

/-- The shortest run for a list of `n` items: `n` itself below 64; otherwise `n` halved until
below 64, plus one when any halving dropped a remainder. -/
def minRun (n : Nat) : Nat := go n 0 n
where
  /-- Halves `n` while it is at least 64, at most `fuel` times, noting a dropped remainder. -/
  go : Nat → Nat → Nat → Nat
    | 0, r, n => n + r
    | fuel + 1, r, n => if n ≥ 64 then go fuel (r ||| n % 2) (n / 2) else n + r

/-- How far a run reaches among the `count` items `get 0, get 1, …`, from item `i` on: items
continue a descending run while they are before their predecessor, an ascending one while
they are not. -/
def runEnd (lt : α → α → m Bool) (get : Nat → α) (descending : Bool) (count i : Nat) : m Nat :=
  if i < count then do
    if (← lt (get i) (get (i - 1))) == descending then
      runEnd lt get descending count (i + 1)
    else pure i
  else pure i
termination_by count - i

/-- The length of the run at the front of the `count` items `get 0, get 1, …`, and whether it
is strictly descending. -/
def runAtFront (lt : α → α → m Bool) (get : Nat → α) (count : Nat) : m (Nat × Bool) := do
  if count ≤ 1 then return (count, false)
  let descending ← lt (get 1) (get 0)
  return (← runEnd lt get descending count 2, descending)

/-- The power of the boundary between a run of `len₁` items at `start` and the run of `len₂`
items after it, in a list of `n` items: one more than the number of leading binary digits
that the midpoints of the two runs, as fractions of `n`, share. -/
def boundaryPower (start len₁ len₂ n : Nat) : Nat :=
  go (n + 2) (2 * start + len₁) (2 * start + 2 * len₁ + len₂) 1
where
  /-- Compares the next binary digits of `a / n` and `b / n` (with `a` and `b` doubled
  midpoints), at most `fuel` of them. -/
  go : Nat → Nat → Nat → Nat → Nat
    | 0, _, _, p => p
    | fuel + 1, a, b, p =>
      if a ≥ n then go fuel (2 * (a - n)) (2 * (b - n)) (p + 1)
      else if b ≥ n then p
      else go fuel (2 * a) (2 * b) (p + 1)

/-- A run waiting to be merged: where it starts, its length, and the power of its boundary with
the run after it (set when that run is found). -/
structure Run where
  start : Nat
  length : Nat
  power : Nat := 0

/-- A sort in progress: the items, the runs waiting (the last first), and the galloping
threshold of merges. -/
structure SortState (α : Type) where
  items : Array α
  waiting : List Run
  minGallop : Nat

def splice (items : Array α) (start len : Nat) (part : Array α) : Array α :=
  items.extract 0 start ++ part ++ items.extract (start + len) items.size

/-- Merges the adjacent runs `[start, start + lenA)` and `[start + lenA, … + lenB)` of the
items, giving the items and the galloping threshold after. -/
def mergeRuns (lt : α → α → m Bool) (d : α) (items : Array α) (start lenA lenB minGallop : Nat) :
    m (Array α × Nat) := do
  let startB := start + lenA
  let get (i : Nat) : α := items.getD i d
  let skipA ← gallopRight lt (get startB) (fun i => get (start + i)) lenA 0
  let start := start + skipA
  let lenA := lenA - skipA
  if lenA == 0 then return (items, minGallop)
  let lenB ← gallopLeft lt (get (start + lenA - 1)) (fun i => get (startB + i)) lenB (lenB - 1)
  if lenB == 0 then return (items, minGallop)
  let a := items.extract start startB
  let b := items.extract startB (startB + lenB)
  let (merged, minGallop) ←
    if lenA ≤ lenB then mergeLo lt d a b minGallop else mergeHi lt d a b minGallop
  return (splice items start (lenA + lenB) merged, minGallop)

/-- Merges the last waiting run into the one before it; the merged run keeps the power of the
earlier one. -/
def mergeLastTwo (lt : α → α → m Bool) (d : α) (s : SortState α) : m (SortState α) :=
  match s.waiting with
  | r₂ :: r₁ :: rest => do
    let (items, minGallop) ← mergeRuns lt d s.items r₁.start r₁.length r₂.length s.minGallop
    pure { items, minGallop, waiting := { r₁ with length := r₁.length + r₂.length } :: rest }
  | _ => pure s

def mergeBelowLast (lt : α → α → m Bool) (d : α) (s : SortState α) : m (SortState α) :=
  match s.waiting with
  | r₃ :: r₂ :: r₁ :: rest => do
    let (items, minGallop) ← mergeRuns lt d s.items r₁.start r₁.length r₂.length s.minGallop
    pure { items, minGallop,
           waiting := r₃ :: { r₁ with length := r₁.length + r₂.length } :: rest }
  | _ => pure s

/-- Merges the waiting runs while the run under the last has a power above `power`, at most
`fuel` times. -/
def settle (lt : α → α → m Bool) (d : α) (power : Nat) : Nat → SortState α → m (SortState α)
  | 0, s => pure s
  | fuel + 1, s =>
    match s.waiting with
    | _ :: r₁ :: _ =>
      if r₁.power > power then do settle lt d power fuel (← mergeLastTwo lt d s) else pure s
    | _ => pure s

/-- Makes room for a new run of `len` items: the waiting runs merge by power, and the last
takes the power of its boundary with the new run. -/
def makeRoom (lt : α → α → m Bool) (d : α) (len : Nat) (s : SortState α) : m (SortState α) :=
  match s.waiting with
  | [] => pure s
  | last :: _ => do
    let power := boundaryPower last.start last.length len s.items.size
    let s ← settle lt d power s.waiting.length s
    match s.waiting with
    | last :: rest => pure { s with waiting := { last with power } :: rest }
    | [] => pure s

/-- Merges all waiting runs, at most `fuel` times: the last two, or the two before the last
when the third-last is shorter than the last. -/
def collapse (lt : α → α → m Bool) (d : α) : Nat → SortState α → m (SortState α)
  | 0, s => pure s
  | fuel + 1, s =>
    match s.waiting with
    | r₃ :: _ :: r₁ :: _ =>
      if r₁.length < r₃.length then do collapse lt d fuel (← mergeBelowLast lt d s)
      else do collapse lt d fuel (← mergeLastTwo lt d s)
    | _ :: _ :: _ => do collapse lt d fuel (← mergeLastTwo lt d s)
    | _ => pure s

/-- Finds the runs from item `start` on (`fuel` bounds how many), each extended to
`minimum` items, and merges the waiting runs as each is found. -/
def findRuns (lt : α → α → m Bool) (d : α) (minimum : Nat) :
    Nat → Nat → SortState α → m (SortState α)
  | 0, _, s => pure s
  | fuel + 1, start, s => do
    let left := s.items.size - start
    if left == 0 then return s
    let (len, descending) ← runAtFront lt (fun i => s.items.getD (start + i) d) left
    let run := s.items.extract start (start + len)
    let run := if descending then run.reverse else run
    let (run, len) ←
      if len < minimum then do
        let upto := min minimum left
        let more := s.items.extract (start + len) (start + upto)
        pure ((← binaryInsertAll lt run.toList more.toList).toArray, upto)
      else pure (run, len)
    let s := { s with items := splice s.items start len run }
    let s ← makeRoom lt d len s
    findRuns lt d minimum fuel (start + len)
      { s with waiting := { start, length := len } :: s.waiting }

def sortAscendingM (lt : α → α → m Bool) (xs : List α) : m (List α) :=
  match xs with
  | [] => pure []
  | d :: _ => do
    let items := xs.toArray
    let s : SortState α := { items, waiting := [], minGallop := gallopLimit }
    let s ← findRuns lt d (minRun items.size) items.size 0 s
    let s ← collapse lt d s.waiting.length s
    pure s.items.toList

/-- Sorts by `lt`, backwards when `reverse` is set. -/
def sortByM (lt : α → α → m Bool) (reverse : Bool) (xs : List α) : m (List α) :=
  if reverse then List.reverse <$> sortAscendingM lt xs.reverse else sortAscendingM lt xs

def sortBy (lt : α → α → Bool) (reverse : Bool) (xs : List α) : List α :=
  Id.run (sortByM (fun a b => pure (lt a b)) reverse xs)

end AuditTrail.Sorting
