import AuditTrail.Value
import AuditTrail.Number.Exact
import AuditTrail.Failure

/-!
# Arithmetic on numbers

A `Numeric` is an integer or a double, a boolean counting as 0 or 1; comparisons are exact, and
true division of two integers rounds the exact quotient once.
-/

namespace AuditTrail

/-- A number as arithmetic sees it. -/
inductive Numeric where
  | int (n : Int)
  | float (x : Float)

namespace Numeric

def ofValue? : Value → Option Numeric
  | .int n => some (.int n)
  | .bool b => some (.int (if b then 1 else 0))
  | .float x => some (.float x)
  | _ => none

def toExact : Numeric → Exact
  | .int n => .finite n 1
  | .float x => Exact.ofFloat x

def isZero (x : Numeric) : Bool := x.toExact.isInt 0

def isZeroValue (v : Value) : Bool := ((ofValue? v).map isZero).getD false

def toFloat : Numeric → Except Failure Float
  | .int n => match Float.ofRatio? n 1 with
    | some x => .ok x
    | none => .error (.overflow "int too large to convert to float")
  | .float x => .ok x

def zeroDivisor : Failure := .divisionByZero "division by zero"

def quotientOverflow : Failure := .overflow "integer division result too large for a float"

def div : Numeric → Numeric → Except Failure Float
  | .int a, .int b =>
    if b = 0 then .error zeroDivisor
    else match Float.ofRatio? (if b < 0 then -a else a) b.natAbs with
      | some x => .ok x
      | none => .error quotientOverflow
  | a, b => do
    let x ← a.toFloat
    let y ← b.toFloat
    if y == 0 then throw (.divisionByZero "float division by zero")
    pure (x / y)

def comparable (op : String) (v : Value) : Except Failure Numeric :=
  match ofValue? v with
  | some x => .ok x
  | none => .error (.typeMismatch
      ("'" ++ op ++ "' not supported between instances of '" ++ v.typeName ++ "' and 'int'"))

def divValues (a b : Value) : Except Failure Float :=
  match ofValue? a, ofValue? b with
  | some x, some y => div x y
  | _, _ => .error (.typeMismatch
      ("unsupported operand type(s) for /: '" ++ a.typeName ++ "' and '" ++ b.typeName ++ "'"))

def ceil (x : Float) : Except Failure Int :=
  if x.isNaN then .error (.outOfDomain "cannot convert float NaN to integer")
  else if x.isInf then .error (.overflow "cannot convert float infinity to integer")
  else .ok (((Exact.ofFloat x.ceil).floor?).getD 0)

/-- The quotient rounded up, as `ceil` of `div`; two integers are divided exactly, the
quotient rounded to the nearest double without the double (`Ratio.ceil?`). -/
def ceilDiv : Numeric → Numeric → Except Failure Int
  | .int a, .int b =>
    if b = 0 then .error zeroDivisor
    else match Ratio.ceil? (if b < 0 then -a else a) b.natAbs with
      | some c => .ok c
      | none => .error quotientOverflow
  | a, b => do ceil (← a.div b)

end Numeric

end AuditTrail
