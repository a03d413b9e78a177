/-!
# The proleptic Gregorian calendar

`Date.toDays` and `Date.ofDays` convert between dates and days from 1970-01-01, in both
directions.
-/

namespace AuditTrail

/-- A calendar date: a year, a month from 1 to 12 and a day of that month. -/
structure Date where
  year : Int
  month : Nat
  day : Nat
  deriving DecidableEq, Repr, Inhabited

namespace Date

def isLeapYear (y : Int) : Bool :=
  (y % 4 == 0 && y % 100 != 0) || y % 400 == 0

def daysIn (y : Int) (m : Nat) : Nat :=
  match m with
  | 1 | 3 | 5 | 7 | 8 | 10 | 12 => 31
  | 4 | 6 | 9 | 11 => 30
  | 2 => if isLeapYear y then 29 else 28
  | _ => 0

def IsValid (d : Date) : Prop := 1 ≤ d.month ∧ d.month ≤ 12 ∧ 1 ≤ d.day ∧ d.day ≤ daysIn d.year d.month

instance (d : Date) : Decidable d.IsValid := by unfold IsValid; infer_instance

/-- Days from 1970-01-01 to the date, counting eras of 400 years (146097 days) that start
on March 1st, so that the leap day is the last day of its year. -/
def toDays (d : Date) : Int :=
  let y : Int := if d.month ≤ 2 then d.year - 1 else d.year
  let era := y / 400
  let yoe := y - era * 400
  let mp : Int := if d.month > 2 then (d.month : Int) - 3 else (d.month : Int) + 9
  let doy := (153 * mp + 2) / 5 + (d.day : Int) - 1
  let doe := yoe * 365 + yoe / 4 - yoe / 100 + doy
  era * 146097 + doe - 719468

/-- The date `z` days after 1970-01-01; the inverse of `toDays` on valid dates. -/
def ofDays (z : Int) : Date :=
  let z := z + 719468
  let era := z / 146097
  let doe := z - era * 146097
  let yoe := (doe - doe / 1460 + doe / 36524 - doe / 146096) / 365
  let doy := doe - (365 * yoe + yoe / 4 - yoe / 100)
  let mp := (5 * doy + 2) / 153
  let day := doy - (153 * mp + 2) / 5 + 1
  let month := if mp < 10 then mp + 3 else mp - 9
  let year := yoe + era * 400
  { year := if month ≤ 2 then year + 1 else year, month := month.toNat, day := day.toNat }

end Date

end AuditTrail
