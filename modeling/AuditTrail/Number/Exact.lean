import AuditTrail.Number.Shortest

/-!
# Exact numbers

The exact value of an integer or a double: a dyadic fraction, an infinity or NaN. NaN compares
equal to everything, so it never reorders a sorted list, and `Exact.same` to nothing.
-/

namespace AuditTrail

/-- An exact number: an integer, a finite double as a fraction, or an infinity. -/
inductive Exact where
  | finite (num : Int) (den : Nat)
  | posInf
  | negInf
  | nan

namespace Exact

def ofFloat (x : Float) : Exact :=
  if x.isNaN then .nan
  else if x.isInf then (if x < 0 then .negInf else .posInf)
  else
    let b := Binary.ofFloat x
    let m : Int := if b.neg then -(b.mant : Int) else b.mant
    if b.exp ≥ 0 then .finite (m * (Nat.pow 2 b.exp.toNat : Nat)) 1
    else .finite m (Nat.pow 2 (-b.exp).toNat)

/-- Exact comparison; a NaN compares equal to everything, so that it never reorders. -/
def cmp : Exact → Exact → Ordering
  | .nan, _ | _, .nan => .eq
  | .negInf, .negInf | .posInf, .posInf => .eq
  | .negInf, _ => .lt
  | _, .negInf => .gt
  | .posInf, _ => .gt
  | _, .posInf => .lt
  | .finite a da, .finite b db => compare (a * db) (b * da)

/-- Whether `a` is less than `b`; a NaN is neither less nor greater than anything. -/
def lt (a b : Exact) : Bool :=
  match a, b with
  | .nan, _ | _, .nan => false
  | _, _ => cmp a b == .lt

/-- Whether two numbers are equal; a NaN equals nothing. -/
def same (a b : Exact) : Bool :=
  match a, b with
  | .nan, _ | _, .nan => false
  | _, _ => cmp a b == .eq

def ofInt (n : Int) : Exact := .finite n 1

def gtInt (x : Exact) (n : Int) : Bool := cmp x (ofInt n) == .gt

def isInt (x : Exact) (n : Int) : Bool := same x (ofInt n)

def floor? : Exact → Option Int
  | .finite n d => some (n / (d : Int))
  | _ => none

end Exact

namespace Ratio

def roundHalfEven (p q : Nat) : Nat :=
  let m := p / q
  let r := p % q
  if 2 * r > q ∨ (2 * r = q ∧ m % 2 = 1) then m + 1 else m

def scaled (a d : Nat) (k : Int) : Nat × Nat :=
  if k ≥ 0 then (a * Nat.pow 2 k.toNat, d) else (a, d * Nat.pow 2 (-k).toNat)

/-- The power of two that scales `a / d` into `[2^52, 2^53)`, or `1074` (the scale of the least
double) when the quotient is below the least normal double. -/
def scale (a d : Nat) : Int :=
  let k0 : Int := 53 - ((a.log2 : Int) - d.log2)
  let s := scaled a d k0
  min (if s.1 / s.2 ≥ Nat.pow 2 53 then k0 - 1 else k0) 1074

/-- The mantissa of the double nearest to `a / d`, which is `mantissa a d * 2^(-scale a d)`:
the scaled quotient divided once with a remainder, the remainder rounding the last place. -/
def mantissa (a d : Nat) : Nat :=
  let s := scaled a d (scale a d)
  roundHalfEven s.1 s.2

/-- The least integer not below the double nearest to `n / d`, for `d > 0`, found without the
double: `none` when that double is too large. -/
def ceil? (n : Int) (d : Nat) : Option Int :=
  let a := n.natAbs
  if a = 0 ∨ d = 0 then some 0
  else
    let m := mantissa a d
    let k := scale a d
    if k ≤ 0 then
      let v := m * Nat.pow 2 (-k).toNat
      if Nat.pow 2 1024 ≤ v then none else some (if n < 0 then -(v : Int) else v)
    else
      let u := Nat.pow 2 k.toNat
      some (if n < 0 then -((m / u : Nat) : Int) else ((m + u - 1) / u : Nat))

end Ratio

/-- Whether the double nearest to `a / d` is too large for a double: its mantissa scaled back
reaches `2^1024`. -/
def Ratio.overflows (a d : Nat) : Bool :=
  let k := Ratio.scale a d
  decide (k ≤ 0) && decide (Nat.pow 2 1024 ≤ Ratio.mantissa a d * Nat.pow 2 (-k).toNat)

/-- The double nearest to `n / d` (ties to the even neighbour), for `d > 0`; `none` when the
quotient is too large for a double (`Ratio.mantissa` and `Ratio.scale`). Below that bound the
mantissa scaled by the power of two is a double, so the scaling is exact. -/
def Float.ofRatio? (n : Int) (d : Nat) : Option Float :=
  let a := n.natAbs
  if a = 0 ∨ d = 0 then some 0.0
  else if Ratio.overflows a d then none
  else
    let x := Float.scaleB (Ratio.mantissa a d).toFloat (-Ratio.scale a d)
    some (if n < 0 then -x else x)

end AuditTrail
