import AuditTrail.Value.Compare
import AuditTrail.Text.Case

/-!
# Store conditions

A `Cond` is clauses that must all hold; a clause tests the values a dotted path reaches, and
`Cond.toValue` writes it in the store's query notation.
-/

namespace AuditTrail

/-- One test on the value at a field path. -/
inductive Test where
  | eq (v : Value)
  | isIn (vs : List Value)
  | atLeast (v : Value)
  | atMost (v : Value)
  | below (v : Value)
  | notEq (v : Value)
  | contains (text : String)

/-- A clause of a condition. -/
inductive Clause where
  | field (path : String) (tests : List Test)
  | either (alternatives : List Clause)

/-- A condition: all of its clauses. -/
abbrev Cond := List Clause

namespace Value

def atPath (v : Value) (path : String) : Option Value :=
  (path.splitOn ".").foldl (fun acc k => acc.bind (·.field? k)) (some v)

/-- The values the steps of a path reach from a value, `none` for a record that lacks the
last step asked of it. A record missing an inner step stands for an empty record; a list
passes each step on to the records among its items. -/
def reach : List String → Value → List (Option Value)
  | _, .null => []
  | [], v => [some v]
  | k :: ks, .list xs => xs.flatMap (fun x => match x with
    | .record r => match Record.get? r k with
      | some v => reach ks v
      | none => [none]
    | _ => [])
  | [k], .record r => [Record.get? r k]
  | k :: ks, .record r => reach ks ((Record.get? r k).getD (.record []))
  | _ :: _, _ => []

def candidates : Value → List Value
  | .list xs => xs ++ [.list xs]
  | v => [v]

end Value

namespace Test

def eqHolds (v : Value) : Option Value → Bool
  | none => v.isNull
  | some x => x.candidates.any (Value.storeEq · v)

/-- Whether some candidate of a found value compares to `v` as `ok` says, kinds not mixed;
the candidates are tried in order, and one that is a decimal is refused. -/
def cmpHolds (v : Value) (ok : Ordering → Bool) : Option Value → Except Failure Bool
  | none => .ok false
  | some x => x.candidates.anyM (fun c => do
      let rc ← Value.sortRank c
      let rv ← Value.sortRank v
      pure (rc == rv && ok (Value.storeCmp c v)))

/-- Whether a found value passes the test. -/
def holds : Test → Option Value → Except Failure Bool
  | .eq v, x => .ok (eqHolds v x)
  | .isIn vs, x => .ok (vs.any (eqHolds · x))
  | .atLeast v, x => cmpHolds v (· != .lt) x
  | .atMost v, x => cmpHolds v (· != .gt) x
  | .below v, x => cmpHolds v (· == .lt) x
  | .notEq v, x => .ok (!eqHolds v x)
  | .contains _, none => .ok false
  | .contains t, some x => .ok (x.candidates.any (fun c => match c with
    | .str s | .member _ s => Case.containsFolded s.toList t.toList
    | _ => false))

def isNegative : Test → Bool
  | .notEq _ => true
  | _ => false

/-- Whether the tests of a field clause hold of the values found at its path, asked in order
until the answer is known. -/
def allHold (tests : List Test) (found : List (Option Value)) : Except Failure Bool :=
  if tests.any isNegative then
    if found.isEmpty then .ok (tests.all isNegative)
    else found.allM (fun x => tests.allM (·.holds x))
  else found.anyM (fun x => tests.allM (·.holds x))

def specialChars : List Char :=
  ['(', ')', '[', ']', '\x7b', '\x7d', '?', '*', '+', '-', '|', '^', '$', '\\', '.', '&', '~',
    '#', ' ', '\t', '\n', '\r', '\x0b', '\x0c']

def escapePattern (s : String) : String :=
  String.ofList (s.toList.flatMap (fun c => if specialChars.contains c then ['\\', c] else [c]))

def entries : Test → Record
  | .eq v => [("$eq", v)]
  | .isIn vs => [("$in", .list vs)]
  | .atLeast v => [("$gte", v)]
  | .atMost v => [("$lte", v)]
  | .below v => [("$lt", v)]
  | .notEq v => [("$ne", v)]
  | .contains t => [("$regex", .str (escapePattern t)), ("$options", .str "i")]

end Test

namespace Clause

mutual
/-- Whether a document satisfies a clause. -/
def holds (doc : Value) : Clause → Except Failure Bool
  | .field path tests => Test.allHold tests (doc.reach (path.splitOn "."))
  | .either cs => anyHolds doc cs
/-- Whether a document satisfies one of the clauses, tried in order. -/
def anyHolds (doc : Value) : List Clause → Except Failure Bool
  | [] => .ok false
  | c :: cs => do if ← holds doc c then pure true else anyHolds doc cs
end

mutual
def entry : Clause → String × Value
  | .field path [.eq v] => (path, v)
  | .field path tests => (path, .record (tests.flatMap Test.entries))
  | .either cs => ("$or", .list (entries cs))
def entries : List Clause → List Value
  | [] => []
  | c :: cs => .record [entry c] :: entries cs
end

end Clause

namespace Cond

/-- Whether a document satisfies every clause, tried in order. -/
def holds (c : Cond) (doc : Value) : Except Failure Bool := c.allM (·.holds doc)

def toValue (c : Cond) : Value := .record (c.map Clause.entry)

end Cond

end AuditTrail
