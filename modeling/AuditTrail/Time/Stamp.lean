import AuditTrail.Time.Calendar

/-!
# Stamps: wall-clock readings to the microsecond

A reading in microseconds from 1970 on the clock, with the clock's offset when known; a naive
stamp is read as UTC. `Stamp.iso` and `Stamp.isoZ` are its two text forms.
-/

namespace AuditTrail

def microsPerSecond : Int := 1000000
def microsPerMinute : Int := 60 * microsPerSecond
def microsPerHour : Int := 60 * microsPerMinute
def microsPerDay : Int := 24 * microsPerHour

/-- A wall-clock reading to the microsecond, with its offset from UTC when known. -/
structure Stamp where
  /-- Microseconds since 1970-01-01T00:00:00 on the stamp's own clock. -/
  wall : Int
  /-- The clock's offset from UTC in microseconds; `none` for a naive stamp. -/
  offset : Option Int := none
  deriving DecidableEq, Repr, Inhabited

namespace Stamp

/-- The instant as microseconds since the epoch in UTC; a naive stamp is read as UTC. -/
def utc (t : Stamp) : Int := t.wall - t.offset.getD 0

def toNaiveUtc (t : Stamp) : Stamp := ⟨t.utc, none⟩

def date (t : Stamp) : Date := Date.ofDays (t.wall / microsPerDay)

def timeOfDay (t : Stamp) : Nat := (t.wall % microsPerDay).toNat

def hour (t : Stamp) : Nat := t.timeOfDay / 3600000000
def minute (t : Stamp) : Nat := t.timeOfDay / 60000000 % 60
def second (t : Stamp) : Nat := t.timeOfDay / 1000000 % 60
def micro (t : Stamp) : Nat := t.timeOfDay % 1000000

def ofParts (d : Date) (h m s us : Nat) (offset : Option Int := none) : Stamp :=
  ⟨d.toDays * microsPerDay + (h : Int) * microsPerHour + (m : Int) * microsPerMinute
    + (s : Int) * microsPerSecond + us, offset⟩

/-- The first and the last representable readings: 0001-01-01T00:00:00 and
9999-12-31T23:59:59.999999. -/
def minWall : Int := (Date.toDays ⟨1, 1, 1⟩) * microsPerDay
def maxWall : Int := (Date.toDays ⟨9999, 12, 31⟩) * microsPerDay + microsPerDay - 1

def inRange (t : Stamp) : Bool := decide (minWall ≤ t.wall) && decide (t.wall ≤ maxWall)

def shift (t : Stamp) (d : Int) : Option Stamp :=
  let u : Stamp := { t with wall := t.wall + d }
  if u.inRange then some u else none

def truncMillis (t : Stamp) : Stamp := { t with wall := t.wall - t.wall % 1000 }

/-- The reading the store keeps: the naive UTC reading, whose microseconds are those of the
given reading cut to whole milliseconds (the conversion to UTC moves the rest, not the
fraction). -/
def toStored (t : Stamp) : Stamp :=
  let u := t.toNaiveUtc
  { u with wall := u.wall - (u.micro : Int) + ((t.micro / 1000 * 1000 : Nat) : Int) }

def padded (w : Nat) (n : Nat) : String :=
  let s := toString n
  String.ofList (List.replicate (w - s.length) '0') ++ s

def dateText (d : Date) : String :=
  let y := if d.year < 0 then "-" ++ padded 4 d.year.natAbs else padded 4 d.year.toNat
  y ++ "-" ++ padded 2 d.month ++ "-" ++ padded 2 d.day

def clockText (t : Stamp) : String :=
  padded 2 t.hour ++ ":" ++ padded 2 t.minute ++ ":" ++ padded 2 t.second ++
    (if t.micro = 0 then "" else "." ++ padded 6 t.micro)

def offsetText (off : Int) : String :=
  let sign := if off < 0 then "-" else "+"
  let a := off.natAbs
  let h := a / 3600000000
  let m := a / 60000000 % 60
  let s := a / 1000000 % 60
  let us := a % 1000000
  sign ++ padded 2 h ++ ":" ++ padded 2 m ++
    (if s = 0 ∧ us = 0 then "" else ":" ++ padded 2 s) ++
    (if us = 0 then "" else "." ++ padded 6 us)

def isoWith (sep : String) (t : Stamp) : String :=
  dateText t.date ++ sep ++ clockText t ++ (match t.offset with
    | none => ""
    | some off => offsetText off)

/-- ISO 8601 text with `T` between date and time and the offset as `+HH:MM`. -/
def iso (t : Stamp) : String := isoWith "T" t

/-- An offset as the wire form writes it: rounded to whole seconds, halves away from zero,
then cut to whole minutes toward zero and written `±HH:MM`; `Z` when no whole second is left. -/
def wireOffsetText (off : Int) : String :=
  let secs := (off.natAbs + 500000) / 1000000
  let mins := secs / 60
  if secs = 0 then "Z"
  else (if off < 0 then "-" else "+") ++ padded 2 (mins / 60) ++ ":" ++ padded 2 (mins % 60)

def isoZ (t : Stamp) : String :=
  dateText t.date ++ "T" ++ clockText t ++ (match t.offset with
    | none => ""
    | some off => wireOffsetText off)

end Stamp

end AuditTrail

namespace AuditTrail

/-- The constructor form of a span of `us` microseconds: the whole days, rounded down, then
the seconds and the microseconds after them, each only when non-zero, and `0` for no span. -/
def spanRepr (us : Int) : String :=
  let days := us / microsPerDay
  let rest := us % microsPerDay
  let parts := (if days = 0 then [] else ["days=" ++ toString days]) ++
    (if rest / microsPerSecond = 0 then [] else ["seconds=" ++ toString (rest / microsPerSecond)]) ++
    (if rest % microsPerSecond = 0 then [] else ["microseconds=" ++ toString (rest % microsPerSecond)])
  "datetime.timedelta(" ++ (if parts.isEmpty then "0" else ", ".intercalate parts) ++ ")"

end AuditTrail
