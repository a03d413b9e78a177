/-!
# Searching a sorted run by galloping

From a hint, the search compares at offsets 1, 3, 7, … until the answer turns, then searches
between the last two places; `gallopLeft` and `gallopRight` give the lower and upper bounds.
-/

namespace AuditTrail.Sorting

variable {α : Type} {m : Type → Type} [Monad m]

/-- Widens a gallop: while the offset is below `limit` and `more` holds at it, the offset is
kept as the last one passed and grows to twice itself plus one. Gives the last offset passed
and the first offset not passed (which may exceed `limit`). -/
def widen (more : Nat → m Bool) (limit last ofs : Nat) : m (Nat × Nat) :=
  if ofs < limit then do
    if ← more ofs then widen more limit ofs (2 * ofs + 1) else pure (last, ofs)
  else pure (last, ofs)
termination_by limit - ofs

/-- Binary search in `[lo, hi)` for the first place whose item `goesRight` says no to; every
place asked is the middle of the range left. -/
def narrow (goesRight : Nat → m Bool) (lo hi : Nat) : m Nat :=
  if lo < hi then do
    let mid := lo + (hi - lo) / 2
    if ← goesRight mid then narrow goesRight (mid + 1) hi else narrow goesRight lo mid
  else pure hi
termination_by hi - lo

/-- The number of items of a sorted run (`get i` for `i < n`) that are before `key`, searched
from `hint`. -/
def gallopLeft (lt : α → α → m Bool) (key : α) (get : Nat → α) (n hint : Nat) : m Nat := do
  if ← lt (get hint) key then
    let limit := n - hint
    let (last, ofs) ← widen (fun o => lt (get (hint + o)) key) limit 0 1
    narrow (fun i => lt (get i) key) (hint + last + 1) (hint + min ofs limit)
  else
    let limit := hint + 1
    let (last, ofs) ← widen (fun o => do return !(← lt (get (hint - o)) key)) limit 0 1
    narrow (fun i => lt (get i) key) (hint + 1 - min ofs limit) (hint - last)

/-- The number of items of a sorted run (`get i` for `i < n`) that `key` is not before,
searched from `hint`. -/
def gallopRight (lt : α → α → m Bool) (key : α) (get : Nat → α) (n hint : Nat) : m Nat := do
  if ← lt key (get hint) then
    let limit := hint + 1
    let (last, ofs) ← widen (fun o => lt key (get (hint - o))) limit 0 1
    narrow (fun i => do return !(← lt key (get i))) (hint + 1 - min ofs limit) (hint - last)
  else
    let limit := n - hint
    let (last, ofs) ← widen (fun o => do return !(← lt key (get (hint + o)))) limit 0 1
    narrow (fun i => do return !(← lt key (get i))) (hint + last + 1) (hint + min ofs limit)

end AuditTrail.Sorting
