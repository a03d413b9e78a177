import AuditTrail.Value.Equality
import AuditTrail.Store.Order
import AuditTrail.Failure

/-!
# Orderings between values

`Value.pyCompare` is the language's `<` and `>`, and `Value.sortLt` the less-than the store sorts
by; both are asked one question at a time and may refuse.
-/

namespace AuditTrail

/-- The two ordering questions. -/
inductive Comparison where
  | less | greater
  deriving DecidableEq, Repr

namespace Comparison

def symbol : Comparison → String
  | .less => "<"
  | .greater => ">"

def holds : Comparison → Ordering → Bool
  | .less, o => o == .lt
  | .greater, o => o == .gt

end Comparison

namespace Value

def notOrderable (op : Comparison) (a b : Value) : Failure :=
  .typeMismatch ("'" ++ op.symbol ++ "' not supported between instances of '" ++ a.typeName ++
    "' and '" ++ b.typeName ++ "'")

def textOf? : Value → Option String
  | .str s => some s
  | .member _ s => some s
  | _ => none

mutual
/-- The language's `a < b` or `a > b`. -/
def pyCompare (op : Comparison) : Value → Value → Except Failure Bool
  | .list xs, .list ys => pyCompareItems op xs ys
  | .tuple xs, .tuple ys => pyCompareItems op xs ys
  | .stamp s, .stamp t =>
    if s.offset.isSome != t.offset.isSome then
      .error (.typeMismatch "can't compare offset-naive and offset-aware datetimes")
    else .ok (op.holds (compare s.utc t.utc))
  | .objectId x, .objectId y => .ok (op.holds (compare x y))
  | a, b => match a.textOf?, b.textOf? with
    | some x, some y => .ok (op.holds (Surrogate.textCmp x y))
    | _, _ => match a.looseNumber?, b.looseNumber? with
      | some x, some y => .ok (op.holds (Exact.cmp x y))
      | _, _ => .error (notOrderable op a b)
/-- `pyCompare` of two sequences: at the first pair of items that are not equal, else by
length. -/
def pyCompareItems (op : Comparison) : List Value → List Value → Except Failure Bool
  | x :: xs, y :: ys => if sameEq x y then pyCompareItems op xs ys else pyCompare op x y
  | xs, ys => .ok (op.holds (compare xs.length ys.length))
end

/-- The rank of a value's kind in the store's order (`Value.rank`); the store has no place for
a decimal and refuses to rank one. -/
def sortRank : Value → Except Failure Nat
  | .decimal d => .error (.unsortable (Decimal.text d))
  | v => .ok v.rank

mutual
/-- The less-than the store sorts by. The kinds of both values are ranked first, which refuses
a decimal; a record's values are all ranked before any is compared. -/
def sortLt (a b : Value) : Except Failure Bool :=
  match sortRank a, sortRank b with
  | .error e, _ => .error e
  | _, .error e => .error e
  | .ok ra, .ok rb =>
    if ra != rb then .ok (decide (ra < rb))
    else match a, b with
      | .list xs, .list ys => sortLtItems xs ys
      | .list xs, .tuple ys => sortLtItems xs ys
      | .tuple xs, .list ys => sortLtItems xs ys
      | .tuple xs, .tuple ys => sortLtItems xs ys
      | .record xs, .record ys =>
        match xs.mapM (fun p => sortRank p.2), ys.mapM (fun p => sortRank p.2) with
        | .error e, _ => .error e
        | _, .error e => .error e
        | .ok _, .ok _ => sortLtFields xs ys
      | .bool a, .bool b => .ok (!a && b)
      | .objectId a, .objectId b => .ok (decide (a < b))
      | .stamp a, .stamp b => .ok (decide (a.utc < b.utc))
      | a, b => match a.textOf?, b.textOf? with
        | some x, some y => .ok (Surrogate.textCmp x y == .lt)
        | _, _ => match a.looseNumber?, b.looseNumber? with
          | some x, some y => .ok (Exact.cmp x y == .lt)
          | _, _ => .ok false
/-- `sortLt` of two sequences: at the first pair of items that are not equal, else by
length. -/
def sortLtItems : List Value → List Value → Except Failure Bool
  | x :: xs, y :: ys => if looseEq x y then sortLtItems xs ys else sortLt x y
  | xs, ys => .ok (decide (xs.length < ys.length))
def sortLtFields : List (String × Value) → List (String × Value) → Except Failure Bool
  | (k, x) :: xs, (l, y) :: ys =>
    if rank x != rank y then .ok (decide (rank x < rank y))
    else if k != l then .ok (compare k.toList l.toList == .lt)
    else if sameEq x y then sortLtFields xs ys
    else sortLt x y
  | xs, ys => .ok (decide (xs.length < ys.length))
end

def pyMin : List Value → Except Failure (Option Value)
  | [] => .ok none
  | v :: vs => some <$> vs.foldlM (fun cur x => do
      if ← pyCompare .less x cur then pure x else pure cur) v

def pyMax : List Value → Except Failure (Option Value)
  | [] => .ok none
  | v :: vs => some <$> vs.foldlM (fun cur x => do
      if ← pyCompare .greater x cur then pure x else pure cur) v

end Value

end AuditTrail
