import AuditTrail.Value
import AuditTrail.Number.Exact
import AuditTrail.Text.Surrogate

/-!
# The store's order and equality on values

Values are ordered by kind (`Value.rank`), then within a kind; `Value.storeEq` is the store's
equality, under which numbers and booleans of one value are equal and a NaN equals nothing.
-/

namespace AuditTrail

namespace Value

def exactNum? : Value → Option Exact
  | .int n => some (.finite n 1)
  | .float x => some (Exact.ofFloat x)
  | _ => none

/-- The number a value counts as when tested for equality: a number, or a boolean as `0` or
`1`. -/
def equalityNum? : Value → Option Exact
  | .bool b => some (.finite (if b then 1 else 0) 1)
  | v => v.exactNum?

def rank : Value → Nat
  | .decimal _ => 0
  | .null => 5
  | .int _ | .float _ => 10
  | .str _ | .member _ _ => 15
  | .record _ => 20
  | .list _ | .tuple _ => 25
  | .objectId _ => 35
  | .bool _ => 40
  | .stamp _ => 45

def textCmp (a b : String) : Ordering := Surrogate.textCmp a b

mutual
/-- The store's order on values. -/
def storeCmp : Value → Value → Ordering
  | .int a, b => match b.exactNum? with
    | some eb => Exact.cmp (.finite a 1) eb
    | none => compare (rank (.int a)) (rank b)
  | .float x, b => match b.exactNum? with
    | some eb => Exact.cmp (Exact.ofFloat x) eb
    | none => compare (rank (.float x)) (rank b)
  | .str a, .str b => textCmp a b
  | .str a, .member _ b => textCmp a b
  | .member _ a, .str b => textCmp a b
  | .member _ a, .member _ b => textCmp a b
  | .bool a, .bool b => compare a.toNat b.toNat
  | .objectId a, .objectId b => compare a b
  | .stamp a, .stamp b => compare a.utc b.utc
  | .null, .null => .eq
  | .decimal a, .decimal b => textCmp a b
  | .list xs, .list ys => itemsCmp xs ys
  | .list xs, .tuple ys => itemsCmp xs ys
  | .tuple xs, .list ys => itemsCmp xs ys
  | .tuple xs, .tuple ys => itemsCmp xs ys
  | .record xs, .record ys => fieldsCmp xs ys
  | a, b => compare (rank a) (rank b)
def itemsCmp : List Value → List Value → Ordering
  | [], [] => .eq
  | [], _ :: _ => .lt
  | _ :: _, [] => .gt
  | x :: xs, y :: ys => match storeCmp x y with
    | .eq => itemsCmp xs ys
    | o => o
def fieldsCmp : List (String × Value) → List (String × Value) → Ordering
  | [], [] => .eq
  | [], _ :: _ => .lt
  | _ :: _, [] => .gt
  | (k, x) :: xs, (l, y) :: ys =>
    match compare (rank x) (rank y) with
    | .eq => match textCmp k l with
      | .eq => match storeCmp x y with
        | .eq => fieldsCmp xs ys
        | o => o
      | o => o
    | o => o
end

mutual
/-- The store's equality. -/
def storeEq : Value → Value → Bool
  | .int a, b => match b.equalityNum? with
    | some eb => Exact.same (.finite a 1) eb
    | none => false
  | .float x, b => match b.equalityNum? with
    | some eb => Exact.same (Exact.ofFloat x) eb
    | none => false
  | .bool a, b => match b.equalityNum? with
    | some eb => Exact.same (.finite (if a then 1 else 0) 1) eb
    | none => false
  | .str a, .str b => a == b
  | .str a, .member _ b => a == b
  | .member _ a, .str b => a == b
  | .member _ a, .member _ b => a == b
  | .objectId a, .objectId b => a == b
  | .stamp a, .stamp b => a.utc == b.utc && a.offset.isSome == b.offset.isSome
  | .null, .null => true
  | .decimal a, .decimal b => a == b
  | .list xs, .list ys => itemsEq xs ys
  | .tuple xs, .tuple ys => itemsEq xs ys
  | .record xs, .record ys => fieldsEq xs ys && xs.length == ys.length
  | _, _ => false
def itemsEq : List Value → List Value → Bool
  | [], [] => true
  | x :: xs, y :: ys => storeEq x y && itemsEq xs ys
  | _, _ => false
def fieldsEq : List (String × Value) → List (String × Value) → Bool
  | [], _ => true
  | (k, x) :: xs, ys => (match Record.get? ys k with
    | some y => storeEq x y
    | none => false) && fieldsEq xs ys
end

end Value

end AuditTrail
