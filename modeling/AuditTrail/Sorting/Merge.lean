import AuditTrail.Sorting.Gallop

/-!
# Merging two sorted runs

`mergeLo` and `mergeHi` merge two adjacent sorted runs stably, from the front or the back, one
comparison per item until one run wins `minGallop` times, then by galloping.
-/

namespace AuditTrail.Sorting

variable {α : Type} {m : Type → Type} [Monad m]

def gallopLimit : Nat := 7

/-- What a merge is doing: placing one item at a time, with how many times in a row each run
has won; or galloping. -/
inductive MergeMode where
  | stepping (winsA winsB : Nat)
  | galloping

/-- A merge from the front: the next items of `A` and `B` and how many of each are left, the
items placed so far, and the galloping threshold. -/
structure FrontMerge (α : Type) where
  nextA : Nat
  leftA : Nat
  nextB : Nat
  leftB : Nat
  placed : Array α
  minGallop : Nat

namespace FrontMerge

/-- The end of a merge from the front: the items placed, then what is left of `A`, then what is
left of `B`. -/
def finish (a b : Array α) (s : FrontMerge α) : Array α × Nat :=
  (s.placed ++ a.extract s.nextA (s.nextA + s.leftA) ++ b.extract s.nextB (s.nextB + s.leftB),
    s.minGallop)

def finishLastA (a b : Array α) (d : α) (s : FrontMerge α) : Array α × Nat :=
  (s.placed ++ b.extract s.nextB (s.nextB + s.leftB) ++ #[a.getD s.nextA d], s.minGallop)

def takeA (a : Array α) (k : Nat) (s : FrontMerge α) : FrontMerge α :=
  { s with placed := s.placed ++ a.extract s.nextA (s.nextA + k), nextA := s.nextA + k,
           leftA := s.leftA - k }

def takeB (b : Array α) (k : Nat) (s : FrontMerge α) : FrontMerge α :=
  { s with placed := s.placed ++ b.extract s.nextB (s.nextB + k), nextB := s.nextB + k,
           leftB := s.leftB - k }

end FrontMerge

/-- The steps of a merge from the front, at most `fuel` of them; each places at least one
item, so the number of items is enough fuel. -/
def mergeLoSteps (lt : α → α → m Bool) (a b : Array α) (d : α) :
    Nat → MergeMode → FrontMerge α → m (Array α × Nat)
  | 0, _, s => pure (s.finish a b)
  | fuel + 1, .stepping winsA winsB, s => do
    if ← lt (b.getD s.nextB d) (a.getD s.nextA d) then
      let s := s.takeB b 1
      if s.leftB == 0 then return s.finish a b
      if winsB + 1 ≥ s.minGallop then
        mergeLoSteps lt a b d fuel .galloping { s with minGallop := s.minGallop + 1 }
      else mergeLoSteps lt a b d fuel (.stepping 0 (winsB + 1)) s
    else
      let s := s.takeA a 1
      if s.leftA == 1 then return s.finishLastA a b d
      if winsA + 1 ≥ s.minGallop then
        mergeLoSteps lt a b d fuel .galloping { s with minGallop := s.minGallop + 1 }
      else mergeLoSteps lt a b d fuel (.stepping (winsA + 1) 0) s
  | fuel + 1, .galloping, s => do
    let s := { s with minGallop := if s.minGallop > 1 then s.minGallop - 1 else s.minGallop }
    let runA ← gallopRight lt (b.getD s.nextB d) (fun i => a.getD (s.nextA + i) d) s.leftA 0
    let s := s.takeA a runA
    if runA > 0 && s.leftA == 1 then return s.finishLastA a b d
    if runA > 0 && s.leftA == 0 then return s.finish a b
    let s := s.takeB b 1
    if s.leftB == 0 then return s.finish a b
    let runB ← gallopLeft lt (a.getD s.nextA d) (fun i => b.getD (s.nextB + i) d) s.leftB 0
    let s := s.takeB b runB
    if runB > 0 && s.leftB == 0 then return s.finish a b
    let s := s.takeA a 1
    if s.leftA == 1 then return s.finishLastA a b d
    if runA ≥ gallopLimit || runB ≥ gallopLimit then mergeLoSteps lt a b d fuel .galloping s
    else mergeLoSteps lt a b d fuel (.stepping 0 0) { s with minGallop := s.minGallop + 1 }

/-- Merges `A` and `B`, both nonempty, from the front, with galloping threshold `minGallop`;
the first item of `B` is known to go before every item of `A`. -/
def mergeLo (lt : α → α → m Bool) (d : α) (a b : Array α) (minGallop : Nat) :
    m (Array α × Nat) :=
  let s : FrontMerge α :=
    { nextA := 0, leftA := a.size, nextB := 0, leftB := b.size, placed := #[], minGallop }
  let s := s.takeB b 1
  if s.leftB == 0 then pure (s.finish a b)
  else if s.leftA == 1 then pure (s.finishLastA a b d)
  else mergeLoSteps lt a b d (a.size + b.size) (.stepping 0 0) s

/-- A merge from the back: how many items of `A` and `B` are left (a prefix of each), the items
placed so far (the tail of the result), and the galloping threshold. -/
structure BackMerge (α : Type) where
  leftA : Nat
  leftB : Nat
  placed : List α
  minGallop : Nat

namespace BackMerge

/-- The end of a merge from the back: what is left of `A`, then what is left of `B`, then the
items placed. -/
def finish (a b : Array α) (s : BackMerge α) : Array α × Nat :=
  (a.extract 0 s.leftA ++ b.extract 0 s.leftB ++ s.placed.toArray, s.minGallop)

def finishFirstB (a b : Array α) (d : α) (s : BackMerge α) : Array α × Nat :=
  (#[b.getD 0 d] ++ a.extract 0 s.leftA ++ s.placed.toArray, s.minGallop)

def takeA (a : Array α) (k : Nat) (s : BackMerge α) : BackMerge α :=
  { s with placed := (a.extract (s.leftA - k) s.leftA).toList ++ s.placed,
           leftA := s.leftA - k }

def takeB (b : Array α) (k : Nat) (s : BackMerge α) : BackMerge α :=
  { s with placed := (b.extract (s.leftB - k) s.leftB).toList ++ s.placed,
           leftB := s.leftB - k }

end BackMerge

/-- The steps of a merge from the back, at most `fuel` of them; each places at least one item,
so the number of items is enough fuel. -/
def mergeHiSteps (lt : α → α → m Bool) (a b : Array α) (d : α) :
    Nat → MergeMode → BackMerge α → m (Array α × Nat)
  | 0, _, s => pure (s.finish a b)
  | fuel + 1, .stepping winsA winsB, s => do
    if ← lt (b.getD (s.leftB - 1) d) (a.getD (s.leftA - 1) d) then
      let s := s.takeA a 1
      if s.leftA == 0 then return s.finish a b
      if winsA + 1 ≥ s.minGallop then
        mergeHiSteps lt a b d fuel .galloping { s with minGallop := s.minGallop + 1 }
      else mergeHiSteps lt a b d fuel (.stepping (winsA + 1) 0) s
    else
      let s := s.takeB b 1
      if s.leftB == 1 then return s.finishFirstB a b d
      if winsB + 1 ≥ s.minGallop then
        mergeHiSteps lt a b d fuel .galloping { s with minGallop := s.minGallop + 1 }
      else mergeHiSteps lt a b d fuel (.stepping 0 (winsB + 1)) s
  | fuel + 1, .galloping, s => do
    let s := { s with minGallop := if s.minGallop > 1 then s.minGallop - 1 else s.minGallop }
    let below ← gallopRight lt (b.getD (s.leftB - 1) d) (fun i => a.getD i d) s.leftA
      (s.leftA - 1)
    let runA := s.leftA - below
    let s := s.takeA a runA
    if runA > 0 && s.leftA == 0 then return s.finish a b
    let s := s.takeB b 1
    if s.leftB == 1 then return s.finishFirstB a b d
    let below ← gallopLeft lt (a.getD (s.leftA - 1) d) (fun i => b.getD i d) s.leftB
      (s.leftB - 1)
    let runB := s.leftB - below
    let s := s.takeB b runB
    if runB > 0 && s.leftB == 1 then return s.finishFirstB a b d
    if runB > 0 && s.leftB == 0 then return s.finish a b
    let s := s.takeA a 1
    if s.leftA == 0 then return s.finish a b
    if runA ≥ gallopLimit || runB ≥ gallopLimit then mergeHiSteps lt a b d fuel .galloping s
    else mergeHiSteps lt a b d fuel (.stepping 0 0) { s with minGallop := s.minGallop + 1 }

/-- Merges `A` and `B`, both nonempty, from the back, with galloping threshold `minGallop`;
the last item of `A` is known to go after every item of `B`. -/
def mergeHi (lt : α → α → m Bool) (d : α) (a b : Array α) (minGallop : Nat) :
    m (Array α × Nat) :=
  let s : BackMerge α := { leftA := a.size, leftB := b.size, placed := [], minGallop }
  let s := s.takeA a 1
  if s.leftA == 0 then pure (s.finish a b)
  else if s.leftB == 1 then pure (s.finishFirstB a b d)
  else mergeHiSteps lt a b d (a.size + b.size) (.stepping 0 0) s

end AuditTrail.Sorting
