import AuditTrail.Time.Stamp
import AuditTrail.Text.Printable

/-!
# Reading ISO 8601 stamps

`Stamp.ofIso` reads a stamp as the runtime's ISO reader does: on the UTF-8 bytes of the text, a
date, one separator, a time and an offset, each field checked after it is read.
-/

namespace AuditTrail

/-- Why a text is not a stamp. -/
inductive IsoError where
  /-- The text has none of the forms. -/
  | malformed
  /-- The text has a form, but a field is out of its range; the text says which. -/
  | outOfRange (message : String)
  deriving DecidableEq, Repr

def IsoError.message (s : String) : IsoError → String
  | .malformed => "Invalid isoformat string: " ++ quoteText s
  | .outOfRange m => m

/-- The fields of a time of day as written, and its fraction in microseconds. -/
structure ClockFields where
  hour : Nat := 0
  minute : Nat := 0
  second : Nat := 0
  micro : Nat := 0
  deriving DecidableEq, Repr

namespace Iso

/-- The UTF-8 bytes of a text, each as the character of its value: positions count bytes, and a
character beyond ASCII is a run of bytes that are neither digits nor separators. -/
def bytesOf (s : String) : Array Char := s.toUTF8.data.map (fun b => Char.ofNat b.toNat)

/-- How many bytes the character that starts with byte `b` takes, from the high bits of `b`
alone: one below 0x80, three for 0xE_, four for 0xF_, two otherwise. -/
def separatorWidth (b : Char) : Nat :=
  if b.toNat < 0x80 then 1
  else if b.toNat / 16 == 0xE then 3
  else if b.toNat / 16 == 0xF then 4
  else 2

def charAt (cs : Array Char) (i : Nat) : Char := cs.getD i '\x00'

def digitsAt (cs : Array Char) (i n : Nat) : Option Nat :=
  (List.range n).foldlM (fun acc k =>
    let c := charAt cs (i + k)
    if c.isDigit then some (acc * 10 + (c.toNat - 48)) else none) 0

def digitRun (cs : Array Char) (i : Nat) : Nat :=
  ((cs.toList.drop i).takeWhile Char.isDigit).length

/-- Where the separator after the date stands, from the characters at 4, 5, 8 and 10 and the
length; `none` when no date form fits. -/
def separatorAt (cs : Array Char) : Option Nat :=
  let len := cs.size
  if len == 7 then some 7
  else if charAt cs 4 == '-' then
    if charAt cs 5 == 'W' then
      if len < 8 then none
      else if len > 8 && charAt cs 8 == '-' then
        if len == 9 then none
        else if len > 10 && (charAt cs 10).isDigit then some 8
        else some 10
      else some 8
    else some 10
  else if charAt cs 4 == 'W' then
    let idx := 7 + digitRun cs 7
    if idx < 9 then some idx
    else if idx % 2 == 0 then some 7 else some 8
  else some 8

def weekday (days : Int) : Int := (days + 3) % 7

/-- The calendar fields of an ISO week date. Week 53 exists in years that start on a Thursday,
and in leap years that start on a Wednesday. In the year 0 the conversion gives a month of 0. -/
def weekDate (y w d : Nat) : Option (Int × Int × Int) :=
  if y = 0 then
    if 1 ≤ w ∧ w ≤ 52 ∧ 1 ≤ d ∧ d ≤ 7 then some (1, 0, 0) else none
  else
    let first := Date.toDays ⟨y, 1, 1⟩
    let fw := weekday first
    let long := fw == 3 || (fw == 2 && Date.isLeapYear y)
    if w = 0 ∨ w > 53 ∨ (w = 53 ∧ !long) ∨ d = 0 ∨ d > 7 then none
    else
      let monday := first - fw + (if fw > 3 then 7 else 0)
      let dt := Date.ofDays (monday + ((w : Int) - 1) * 7 + ((d : Int) - 1))
      some (dt.year, dt.month, dt.day)

/-- Reads the date at the front, as year, month and day fields; `sep` is where the separator
stands, which says whether a week date names its day. -/
def dateAt (cs : Array Char) (sep : Nat) : Option (Int × Int × Int) := do
  let y ← digitsAt cs 0 4
  let dash := charAt cs 4 == '-'
  let p := if dash then 5 else 4
  if charAt cs p == 'W' then
    let w ← digitsAt cs (p + 1) 2
    let p := p + 3
    let d ← if p < sep then
        if dash && charAt cs p != '-' then none
        else digitsAt cs (if dash then p + 1 else p) 1
      else some 1
    weekDate y w d
  else
    let m ← digitsAt cs p 2
    let p := p + 2
    if dash && charAt cs p != '-' then none
    let d ← digitsAt cs (if dash then p + 1 else p) 2
    pure (y, m, d)

/-- Where the reading of the fields of a time stops. -/
inductive FieldsEnd where
  /-- The fields reached `stop`; `more` says whether anything but the end of the text follows. -/
  | reached (fields : List Nat) (more : Bool)
  /-- A fraction starts at the index. -/
  | fraction (fields : List Nat) (start : Nat)

/-- Reads the fields after the first, `n` of them at most, from `p`; `colons` says whether
fields are separated by colons. -/
def laterFields (cs : Array Char) (stop : Nat) (colons : Bool) :
    Nat → Nat → List Nat → Option FieldsEnd
  | 0, p, vals => some (.fraction vals p)
  | n + 1, p, vals => do
    let v ← digitsAt cs p 2
    let c := charAt cs (p + 2)
    let q := p + 3
    let vals := vals ++ [v]
    if q ≥ stop then some (.reached vals (c != '\x00'))
    else if colons && c == ':' then laterFields cs stop colons n q vals
    else if c == '.' || c == ',' then some (.fraction vals q)
    else if !colons then laterFields cs stop colons n (q - 1) vals
    else none

def fieldsAt (cs : Array Char) (start stop : Nat) : Option FieldsEnd := do
  let h ← digitsAt cs start 2
  let c := charAt cs (start + 2)
  let q := start + 3
  if q ≥ stop then some (.reached [h] (c != '\x00'))
  else if c == ':' then laterFields cs stop true 2 q [h]
  else if c == '.' || c == ',' then some (.fraction [h] q)
  else laterFields cs stop false 2 (q - 1) [h]

def ClockFields.ofList (vals : List Nat) (micro : Nat) : ClockFields :=
  { hour := vals.getD 0 0, minute := vals.getD 1 0, second := vals.getD 2 0, micro }

/-- Reads a time from `start` up to `stop`, with its fraction: the clock, and whether anything
but the end of the text follows. -/
def clockAt (cs : Array Char) (start stop : Nat) : Option (ClockFields × Bool) := do
  match ← fieldsAt cs start stop with
  | .reached vals more => pure (ClockFields.ofList vals 0, more)
  | .fraction vals p =>
    let n := min (stop - p) 6
    let v ← digitsAt cs p n
    let q := p + n + digitRun cs (p + n)
    pure (ClockFields.ofList vals (v * Nat.pow 10 (6 - n)), charAt cs q != '\x00')

def offsetStart (cs : Array Char) (start : Nat) : Nat :=
  if cs.size ≤ start then start + 1
  else start + ((cs.toList.drop start).takeWhile (fun c => c != 'Z' && c != '+' && c != '-')).length

def timeAt (cs : Array Char) (start : Nat) : Option (ClockFields × Option Int) := do
  let stop := cs.size
  let tz := offsetStart cs start
  let (clock, more) ← clockAt cs start tz
  if tz = stop then
    if more then none else pure (clock, none)
  else if charAt cs tz == 'Z' then
    if charAt cs (tz + 1) != '\x00' then none else pure (clock, some 0)
  else
    let (off, more) ← clockAt cs (tz + 1) stop
    if more then none
    else
      let secs : Int := off.hour * 3600 + off.minute * 60 + off.second
      let sign : Int := if charAt cs tz == '-' then -1 else 1
      pure (clock, some (if secs = 0 then 0 else sign * (secs * microsPerSecond + off.micro)))

def rangeError (y m d : Int) (c : ClockFields) : Option String :=
  if y < 1 ∨ y > 9999 then some ("year " ++ toString y ++ " is out of range")
  else if m < 1 ∨ m > 12 then some "month must be in 1..12"
  else if d < 1 ∨ d > (Date.daysIn y m.toNat : Int) then some "day is out of range for month"
  else if c.hour > 23 then some "hour must be in 0..23"
  else if c.minute > 59 then some "minute must be in 0..59"
  else if c.second > 59 then some "second must be in 0..59"
  else none

def offsetFits (off : Int) : Bool := decide (-microsPerDay < off) && decide (off < microsPerDay)

/-- The text the reader goes on with: a lone surrogate where the separator can stand is read as
`T`, and any other one leaves the text without a UTF-8 form. -/
def withoutSurrogates (s : String) : Option String :=
  let cs := s.toList
  let candidates := [7, 8, 10].filter (· ≤ cs.length)
  let cs := match candidates.find? (fun i => Surrogate.isStandIn (cs.getD i ' ')) with
    | some i => cs.set i 'T'
    | none => cs
  if cs.any Surrogate.isStandIn then none else some (String.ofList cs)

end Iso

namespace Stamp

/-- Reads an ISO 8601 stamp: naive, or with its offset when one is written. -/
def ofIso (s : String) : Except IsoError Stamp := do
  if s.length < 7 then throw .malformed
  let some s := Iso.withoutSurrogates s | throw .malformed
  let cs := Iso.bytesOf s
  let some sep := Iso.separatorAt cs | throw .malformed
  let some (y, m, d) := Iso.dateAt cs sep | throw .malformed
  let (clock, off) ← if sep < cs.size then
      match Iso.timeAt cs (sep + Iso.separatorWidth (Iso.charAt cs sep)) with
      | some r => pure r
      | none => throw .malformed
    else pure ({}, none)
  if let some o := off then
    if !Iso.offsetFits o then
      throw (.outOfRange ("offset must be a timedelta strictly between " ++
        "-timedelta(hours=24) and timedelta(hours=24), not " ++ spanRepr o ++ "."))
  if let some e := Iso.rangeError y m d clock then throw (.outOfRange e)
  pure (Stamp.ofParts ⟨y, m.toNat, d.toNat⟩ clock.hour clock.minute clock.second clock.micro off)

def ofIso? (s : String) : Option Stamp := (ofIso s).toOption

end Stamp

end AuditTrail
