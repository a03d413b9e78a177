import AuditTrail.Value
import AuditTrail.Number.Exact
import AuditTrail.Store.Order
import AuditTrail.Failure

/-!
# Loose equality and field changes

`Value.looseEq` is the language's `==` on the service's values, `Value.sameEq` the equality of
containers; `Record.changes` lists the fields whose values differ.
-/

namespace AuditTrail

namespace Value

def looseNumber? : Value → Option Exact
  | .int n => some (.finite n 1)
  | .bool b => some (.finite (if b then 1 else 0) 1)
  | .float x => some (Exact.ofFloat x)
  | _ => none

def bothNaN : Value → Value → Bool
  | .float x, .float y => x.isNaN && y.isNaN
  | _, _ => false

mutual
/-- Loose equality of values, as the language's `==` asks it of two values. -/
def looseEq : Value → Value → Bool
  | .null, .null => true
  | .str a, .str b => a == b
  | .str a, .member _ b => a == b
  | .member _ a, .str b => a == b
  | .member _ a, .member _ b => a == b
  | .stamp a, .stamp b =>
    match a.offset, b.offset with
    | none, none => a.wall == b.wall
    | some _, some _ => a.utc == b.utc
    | _, _ => false
  | .objectId a, .objectId b => a == b
  | .decimal a, .decimal b => a == b
  | .list xs, .list ys => sameItems xs ys
  | .tuple xs, .tuple ys => sameItems xs ys
  | .record xs, .record ys => xs.length == ys.length && sameFields xs ys
  | a, b => match looseNumber? a, looseNumber? b with
    | some x, some y => Exact.same x y
    | _, _ => false
def sameItems : List Value → List Value → Bool
  | [], [] => true
  | x :: xs, y :: ys => (bothNaN x y || looseEq x y) && sameItems xs ys
  | _, _ => false
/-- Every field of the first record has a field in the second that containers take as equal
(`sameEq`). -/
def sameFields : List (String × Value) → List (String × Value) → Bool
  | [], _ => true
  | (k, x) :: xs, ys => (match Record.get? ys k with
    | some y => bothNaN x y || looseEq x y
    | none => false) && sameFields xs ys
end

/-- Equality as containers test it: a value equals itself before `==` is asked, so the one NaN
the service's JSON reader gives equals itself here. -/
def sameEq (a b : Value) : Bool := bothNaN a b || looseEq a b

end Value

namespace Record

def insertKey (k : String) : List String → List String
  | [] => [k]
  | j :: js => match Value.textCmp k j with
    | .lt => k :: j :: js
    | .eq => j :: js
    | .gt => j :: insertKey k js

def unionKeys (a b : Record) : List String :=
  (a ++ b).foldl (fun ks p => insertKey p.1 ks) []

def changes (old new : Record) : Record :=
  (unionKeys old new).filterMap (fun k =>
    let x := (old.get? k).getD .null
    let y := (new.get? k).getD .null
    if Value.looseEq x y then none
    else some (k, .record [("from", x), ("to", y)]))

end Record

namespace Value

mutual
/-- The type of the first part of a value that cannot be hashed, if any: a list, a record or
a decimal (which defines equality but no hash), found in a tuple at any depth. -/
def unhashable? : Value → Option String
  | .list _ => some "list"
  | .record _ => some "dict"
  | .decimal _ => some "Decimal128"
  | .tuple xs => unhashableItem? xs
  | _ => none
def unhashableItem? : List Value → Option String
  | [] => none
  | x :: xs => (unhashable? x).orElse (fun _ => unhashableItem? xs)
end

end Value

end AuditTrail
