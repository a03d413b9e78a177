/-!
# Decimal digits of a double

`Binary.shortest` finds the shortest decimal that rounds to a double, the nearer of two
candidates; `Binary.roundTo` rounds to a fixed number of digits. All in exact arithmetic.
-/

namespace AuditTrail

/-- A finite double spelled out: sign, mantissa and binary exponent. -/
structure Binary where
  neg : Bool
  mant : Nat
  exp : Int
  /-- Whether the gap to the next smaller double is half the gap to the next larger one. -/
  narrowBelow : Bool
  deriving Repr

namespace Binary

def ofFloat (x : Float) : Binary :=
  let b : Nat := x.toBits.toNat
  let e : Nat := (b / 4503599627370496) % 2048
  let f : Nat := b % 4503599627370496
  if e = 0 then ⟨decide (9223372036854775808 ≤ b), f, -1074, false⟩
  else ⟨decide (9223372036854775808 ≤ b), f + 4503599627370496, (e : Int) - 1075,
    decide (f = 0 ∧ e > 1)⟩

def cmpScaled (c : Nat) (k : Int) (a : Nat) (t : Int) : Ordering :=
  compare (c * Nat.pow 10 k.toNat * Nat.pow 2 (-t).toNat) (a * Nat.pow 2 t.toNat * Nat.pow 10 (-k).toNat)

/-- The exponent `e` with `10^e ≤ m · 2^q < 10^(e+1)`, for `m > 0`: an estimate from the
bit length, then corrected by at most a few steps each way. -/
def decimalExponent (m : Nat) (q : Int) : Int :=
  let est : Int := ((Nat.log2 m : Int) + q) * 30103 / 100000
  let up := (List.range 4).foldl (fun e _ =>
    if cmpScaled 1 (e + 1) m q != .gt then e + 1 else e) est
  (List.range 4).foldl (fun e _ => if cmpScaled 1 e m q == .gt then e - 1 else e) up

def scaledFraction (b : Binary) (k : Int) : Nat × Nat :=
  (b.mant * Nat.pow 2 b.exp.toNat * Nat.pow 10 (-k).toNat, Nat.pow 2 (-b.exp).toNat * Nat.pow 10 k.toNat)

def rounds (b : Binary) (c : Nat) (k : Int) : Bool :=
  let lowN := if b.narrowBelow then 4 * b.mant - 1 else 4 * b.mant - 2
  let highN := 4 * b.mant + 2
  let lo := cmpScaled c k lowN (b.exp - 2)
  let hi := cmpScaled c k highN (b.exp - 2)
  let incl := b.mant % 2 == 0
  (lo == .gt || (incl && lo == .eq)) && (hi == .lt || (incl && hi == .eq))

/-- Of the two decimals `fl · 10^k` and `(fl + 1) · 10^k` around `num / den`, the nearer;
an exact half goes to the even one. -/
def nearer (num den fl : Nat) : Nat :=
  let below := num - fl * den
  let above := (fl + 1) * den - num
  if below < above then fl else if above < below then fl + 1
  else if fl % 2 = 0 then fl else fl + 1

def candidate (b : Binary) (e10 : Int) (n : Nat) : Option (Nat × Int) :=
  let k := e10 - n + 1
  let (num, den) := b.scaledFraction k
  let fl := num / den
  if num % den = 0 then some (fl, k)
  else
    let inFl := b.rounds fl k
    let inCe := b.rounds (fl + 1) k
    if inFl && inCe then some (nearer num den fl, k)
    else if inFl then some (fl, k)
    else if inCe then some (fl + 1, k)
    else none

def normalize (c : Nat) (k : Int) : Nat × Int :=
  (List.range 20).foldl (fun (c, k) _ => if c ≠ 0 ∧ c % 10 = 0 then (c / 10, k + 1) else (c, k))
    (c, k)

/-- The shortest decimal `c · 10^k` that rounds to the double, nearest of those; `(0, 0)` for
zero. The mantissa has no trailing zero. -/
def shortest (b : Binary) : Nat × Int :=
  if b.mant = 0 then (0, 0)
  else
    let e10 := decimalExponent b.mant b.exp
    let found := (List.range 17).findSome? (fun i => b.candidate e10 (i + 1))
    let (c, k) := found.getD (b.candidate e10 17 |>.getD (0, 0))
    normalize c k

/-- The value rounded to `p ≥ 1` significant digits as `c · 10^k` with `c < 10^p`; a half
goes to the even digit. `(0, 0)` for zero. -/
def roundTo (b : Binary) (p : Nat) : Nat × Int :=
  if b.mant = 0 then (0, 0)
  else
    let e10 := decimalExponent b.mant b.exp
    let k := e10 - p + 1
    let (num, den) := b.scaledFraction k
    let fl := num / den
    let c := if num % den = 0 then fl else nearer num den fl
    if c = Nat.pow 10 p then (Nat.pow 10 (p - 1), k + 1) else (c, k)

end Binary

end AuditTrail
