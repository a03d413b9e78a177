import AuditTrail.Number.Arith
import AuditTrail.Time.Stamp

/-!
# Clock arithmetic

A span is a number of microseconds, at most 999999999 days either way; moving a stamp keeps its
offset and fails outside the years 1 to 9999. `Span.ofAmounts` sums fractional amounts.
-/

namespace AuditTrail

namespace Span

def maxDays : Int := 999999999

def check (us : Int) : Except Failure Int :=
  let d := us / microsPerDay
  if d > 2147483647 ∨ d < -2147483648 then
    .error (.overflow "Python int too large to convert to C int")
  else if d > maxDays ∨ d < -maxDays then
    .error (.overflow ("days=" ++ toString d ++ "; must have magnitude <= " ++ toString maxDays))
  else .ok us

def ofDays (n : Int) : Except Failure Int := check (n * microsPerDay)

def ofHours (n : Int) : Except Failure Int := check (n * microsPerHour)

/-- The whole part of a double, toward zero, and the rest, which the subtraction gives
exactly. -/
def splitWhole (x : Float) : Float × Float :=
  let w := if x < 0 then x.ceil else x.floor
  (w, x - w)

def wholeOf (x : Float) : Int := ((Exact.ofFloat x).floor?).getD 0

/-- Adds an amount of a unit to a sum of whole microseconds and a leftover fraction: whole parts
exactly, fractions through a double product. -/
def accumulate (acc : Int × Option Float) (x : Numeric) (unit : Int) :
    Except Failure (Int × Option Float) :=
  match x with
  | .int n => .ok (acc.1 + n * unit, acc.2)
  | .float x =>
    if x.isNaN then .error (.outOfDomain "cannot convert float NaN to integer")
    else if x.isInf then .error (.overflow "cannot convert float infinity to integer")
    else
      let (w, f) := splitWhole x
      let sum := acc.1 + wholeOf w * unit
      if f == 0 then .ok (sum, acc.2)
      else
        let (w, f) := splitWhole (Float.ofInt unit * f)
        .ok (sum + wholeOf w, some (match acc.2 with
          | some left => left + f
          | none => f))

/-- The leftover fraction rounded into whole microseconds and added to the sum: to the
nearest, a tie going the way that makes the sum even. -/
def settle (acc : Int × Option Float) : Int :=
  match acc with
  | (us, none) => us
  | (us, some left) =>
    if left == 0 then us
    else
      let whole := left.round
      let whole :=
        if (whole - left).abs == 0.5 then
          let odd : Float := if us % 2 == 1 then 1 else 0
          2.0 * ((left + odd) * 0.5).round - odd
        else whole
      us + wholeOf whole

/-- A span of days, hours, minutes and seconds, each an integer or a double. The amounts are
taken smallest unit first, each by `accumulate`, and the leftover is settled last. -/
def ofAmounts (days hours minutes seconds : Numeric) : Except Failure Int := do
  let acc ← accumulate (0, none) seconds microsPerSecond
  let acc ← accumulate acc minutes microsPerMinute
  let acc ← accumulate acc hours microsPerHour
  let acc ← accumulate acc days microsPerDay
  check (settle acc)

end Span

def Stamp.later (t : Stamp) (us : Int) : Except Failure Stamp :=
  match t.shift us with
  | some u => .ok u
  | none => .error (.overflow "date value out of range")

/-- The stamp a span earlier, if representable. -/
def Stamp.earlier (t : Stamp) (us : Int) : Except Failure Stamp := t.later (-us)

end AuditTrail
