import AuditTrail.Value
import AuditTrail.Validation.Issue
import AuditTrail.Validation.Scalar
import AuditTrail.Number.Exact

/-!
# Lax stamp fields

A text is read as an RFC 3339 date and time, else as a Unix time, else as a date alone; numbers
are Unix times, in seconds or milliseconds by magnitude.
-/

namespace AuditTrail

/-- Why a text is not a stamp. -/
inductive StampError where
  | tooShort
  | extraCharacters
  | invalidDateSep
  | invalidYear
  | invalidMonth
  | invalidDay
  | monthRange
  | dayRange
  | dateTooSmall
  | dateTooLarge
  | dateNotExact
  | invalidTime
  deriving DecidableEq, Repr

namespace StampError

def text : StampError → String
  | .tooShort => "input is too short"
  | .extraCharacters => "unexpected extra characters at the end of the input"
  | .invalidDateSep => "invalid date separator, expected `-`"
  | .invalidYear => "invalid character in year"
  | .invalidMonth => "invalid character in month"
  | .invalidDay => "invalid character in day"
  | .monthRange => "month value is outside expected range of 1-12"
  | .dayRange => "day value is outside expected range"
  | .dateTooSmall => "dates before 0000 are not supported as unix timestamps"
  | .dateTooLarge => "dates after 9999 are not supported as unix timestamps"
  | .dateNotExact => "unix timestamp is not an exact date"
  | .invalidTime => "invalid time"

end StampError

namespace StampReading

def digit? (b : UInt8) : Option Nat :=
  if 48 ≤ b.toNat ∧ b.toNat ≤ 57 then some (b.toNat - 48) else none

def digitsAt (bs : Array UInt8) (i n : Nat) (err : StampError) : Except StampError Nat :=
  (List.range n).foldlM (fun a j => match bs[i + j]? >>= digit? with
    | some d => .ok (a * 10 + d)
    | none => .error err) 0

def datePart (bs : Array UInt8) : Except StampError Date := do
  if bs.size < 10 then throw .tooShort
  let y ← digitsAt bs 0 4 .invalidYear
  if bs[4]? != some 45 then throw .invalidDateSep
  let m ← digitsAt bs 5 2 .invalidMonth
  if bs[7]? != some 45 then throw .invalidDateSep
  let d ← digitsAt bs 8 2 .invalidDay
  if m < 1 ∨ m > 12 then throw .monthRange
  let dt : Date := ⟨y, m, d⟩
  if d < 1 ∨ d > Date.daysIn y m then throw .dayRange
  pure dt

/-- The time of day at byte `i` as microseconds, and the offset, if the rest is a valid RFC
3339 time. -/
def timePart (bs : Array UInt8) (i : Nat) : Option (Nat × Option Int) := do
  if bs.size < i + 5 then none
  let h ← (digitsAt bs i 2 .invalidTime).toOption
  if bs[i + 2]? != some 58 then none
  let mi ← (digitsAt bs (i + 3) 2 .invalidTime).toOption
  let (s, us, len) ← if bs[i + 5]? == some 58 then do
      let s ← (digitsAt bs (i + 6) 2 .invalidTime).toOption
      if bs[i + 8]? == some 46 || bs[i + 8]? == some 44 then
        let ds := ((bs.toList.drop (i + 9)).takeWhile (fun b => (digit? b).isSome))
        if ds.isEmpty then none
        let six := (ds.take 6).foldl (fun a b => a * 10 + (b.toNat - 48)) 0 *
          Nat.pow 10 (6 - min 6 ds.length)
        pure (s, six, 9 + ds.length)
      else pure (s, 0, 8)
    else pure (0, 0, 5)
  if h > 23 ∨ mi > 59 ∨ s > 59 then none
  let j := i + len
  let (off, tzLen) ← match bs[j]? with
    | none => some (none, 0)
    | some b =>
      if b == 90 || b == 122 then some (some 0, 1)
      else if b == 43 || b == 45 then do
        let oh ← (digitsAt bs (j + 1) 2 .invalidTime).toOption
        let (om, l) ← if bs[j + 3]? == some 58 then
            ((digitsAt bs (j + 4) 2 .invalidTime).toOption.map (·, 6))
          else ((digitsAt bs (j + 3) 2 .invalidTime).toOption.map (·, 5))
        let total := (oh * 60 + om) * 60
        if total ≥ 86400 ∨ om > 59 then none
        some (some ((if b == 45 then -(total : Int) else total) * 1000000), l)
      else none
  if bs.size > j + tzLen then none
  pure ((((h * 60 + mi) * 60 + s) * 1000000 + us), off)

def dateTime? (bs : Array UInt8) : Option Stamp := do
  let d ← (datePart bs).toOption
  let sep ← bs[10]?
  if !(sep == 84 || sep == 116 || sep == 32 || sep == 95) then none
  let (t, off) ← timePart bs 11
  pure ⟨d.toDays * microsPerDay + t, off⟩

def unixMin : Int := -62167219200
def unixEnd : Int := 253402300800

def ofUnixParts (secs : Int) (us : Nat) : Except StampError Stamp := do
  let secs := secs + (us / 1000000 : Nat)
  let us := us % 1000000
  if secs < unixMin then throw .dateTooSmall
  if secs ≥ unixEnd then throw .dateTooLarge
  pure ⟨secs * microsPerSecond + us, some 0⟩

def msWatershed : Nat := 20000000000

def ofUnixMillis (ms : Int) (extraMicros : Nat) : Except StampError Stamp :=
  ofUnixParts (ms / 1000) ((ms % 1000).toNat * 1000 + extraMicros)

/-- A whole Unix time in seconds or milliseconds (by magnitude) with extra microseconds,
as a UTC stamp. -/
def ofUnix (ts : Int) (extraMicros : Nat) : Except StampError Stamp :=
  if ts.natAbs ≤ msWatershed then ofUnixParts ts extraMicros else ofUnixMillis ts extraMicros

/-- The integer a double stands for once its fraction is dropped towards minus infinity,
held to the range of a signed 64-bit word (zero for NaN). -/
def clampedFloor (x : Float) : Int :=
  if x.isNaN then 0
  else if x ≥ 9223372036854775807.0 then 9223372036854775807
  else if x ≤ -9223372036854775808.0 then -9223372036854775808
  else (Lax.floatToInt? x.floor).getD 0

/-- A non-negative double rounded to the nearest whole number, halves away from zero, as a
natural number (zero for NaN). -/
def roundedNat (x : Float) : Nat := x.round.toUInt64.toNat

/-- A Unix time given as a double, in seconds or (above the watershed) milliseconds: its floor,
and what it exceeds its floor by, rounded to the nearest microsecond, halves away from zero. -/
def ofUnixFloat (x : Float) : Except StampError Stamp :=
  let whole := clampedFloor x
  let frac := x - x.floor
  if x.abs > 20000000000.0 then ofUnixMillis whole (roundedNat (frac * 1000.0))
  else ofUnixParts whole (roundedNat (frac * 1000000.0))

/-- A number in a text: a whole one, or one with a point. -/
inductive NumberText where
  | whole (n : Int)
  | decimal (x : Float)

def digitsValue (ds : List UInt8) : Nat := ds.foldl (fun a b => a * 10 + (b.toNat - 48)) 0

/-- Reads a number: an optional sign and ASCII digits whose value fits a signed 64-bit word, or
else a text with a point that is a decimal number as `Lax.floatOfText?` reads it (an exponent
allowed), rounded to the nearest double. -/
def numberText? (bs : Array UInt8) : Option NumberText :=
  let (neg, body) := match bs.toList with
    | 45 :: r => (true, r)
    | 43 :: r => (false, r)
    | r => (false, r)
  if !body.isEmpty && body.all (fun b => (digit? b).isSome) then
    let n := digitsValue body
    if n < 9223372036854775808 || (neg && n = 9223372036854775808) then
      some (.whole (if neg then -(n : Int) else n))
    else none
  else if bs.contains 46 && bs.all (·.toNat < 128) then
    (Lax.floatOfText? (String.ofList (bs.toList.map (fun b => Char.ofNat b.toNat)))).map .decimal
  else none

def unixInt? (bs : Array UInt8) : Option Int :=
  match numberText? bs with
  | some (.whole n) => some n
  | _ => none

def dateOnly (bs : Array UInt8) : Except StampError Date :=
  match datePart bs with
  | .ok d => if bs.size > 10 then .error .extraCharacters else .ok d
  | .error e => match unixInt? bs with
    | none => .error e
    | some n => do
      let t ← ofUnix n 0
      if t.wall % microsPerDay != 0 then throw .dateNotExact
      pure t.date

/-- The stamp read from a text: an RFC 3339 date and time, else a Unix time, else a date at
midnight; the date's reason when all fail. -/
def ofText (bs : Array UInt8) : Except Issue.Kind Stamp :=
  let numeric : Option (Except StampError Stamp) :=
    match numberText? bs with
    | some (.whole n) => some (ofUnix n 0)
    | some (.decimal x) => some (ofUnixFloat x)
    | none => none
  match dateTime? bs, numeric with
  | some t, _ => .ok t
  | none, some (.ok t) => .ok t
  | none, _ => match dateOnly bs with
    | .ok d => .ok (Stamp.ofParts d 0 0 0 0)
    | .error e => .error (.datetimeFromDate e.text)

def checkYear (t : Stamp) : Except Issue.Kind Stamp :=
  if t.date.year = 0 then .error (.datetimeParsing "year 0 is out of range") else .ok t

/-- A stamp field, read laxly. -/
def read : Value → Except Issue.Kind Stamp
  | .stamp t => .ok t
  | .int n =>
    let n := max (-9223372036854775808) (min n 9223372036854775807)
    match ofUnix n 0 with
    | .ok t => checkYear t
    | .error e => .error (.datetimeParsing e.text)
  | .float x =>
    if x.isNaN then .error (.datetimeParsing "NaN values not permitted")
    else match ofUnixFloat x with
      | .ok t => checkYear t
      | .error e => .error (.datetimeParsing e.text)
  | .str s | .member _ s =>
    if Surrogate.occursIn s then .error .stringUnicode else ofText s.toUTF8.data >>= checkYear
  | _ => .error .datetimeType

end StampReading

end AuditTrail
