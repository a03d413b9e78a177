import AuditTrail.Export.Row
import AuditTrail.Event.Kind
import AuditTrail.Number.Exact

/-!
# Export workbooks

One sheet `Parking Logs`: a styled header row, a row per exported row, the level column shaded.
A text starting with `=` is set back to a text; writing refuses a stamp with an offset and an
integer too large for a double.
-/

namespace AuditTrail

/-- A shading rule: cells of `range` equal to `formula` get the `fill` colour. -/
structure ShadeRule where
  range : String
  formula : String
  fill : String
  deriving DecidableEq, Repr

/-- A built export sheet. -/
structure Sheet where
  title : String
  creator : String
  freezePanes : String
  rows : List (List Value)
  widths : List (String × Nat)
  rules : List ShadeRule

namespace Sheet

def columnLetters (i : Nat) : String :=
  let rec go (fuel n : Nat) (acc : List Char) : List Char :=
    match fuel with
    | 0 => acc
    | fuel + 1 =>
      let acc := Char.ofNat (65 + n % 26) :: acc
      if n < 26 then acc else go fuel (n / 26 - 1) acc
  String.ofList (go (i + 1) i [])

def illegal (c : Char) : Bool :=
  let n := c.toNat
  n ≤ 8 || n == 11 || n == 12 || (14 ≤ n && n ≤ 31)

def maxCellText : Nat := 32767

def cellValue : Value → Except Failure Value
  | .null => .ok .null
  | .str s => .ok (.str (String.ofList ((s.toList.filter (!illegal ·)).take maxCellText)))
  | .member _ s => .ok (.str (String.ofList ((s.toList.filter (!illegal ·)).take maxCellText)))
  | .int n => .ok (.int n)
  | .float x => .ok (.float x)
  | .bool b => .ok (.bool b)
  | .stamp t => .ok (.stamp t)
  | v => .error (.outOfDomain ("Cannot convert " ++ v.repr ++ " to Excel"))

def errorCodes : List String := ["#NULL!", "#DIV/0!", "#VALUE!", "#REF!", "#NAME?", "#NUM!", "#N/A"]

/-- The data type letter a cell takes from its value: a text of more than one character that
starts with `=` is a formula, a text that spells an error value is one, any other text is a
text; a boolean, a date or a number. -/
def bindType : Value → Char
  | .str s =>
    if s.length > 1 ∧ s.startsWith "=" then 'f' else if errorCodes.contains s then 'e' else 's'
  | .bool _ => 'b'
  | .stamp _ => 'd'
  | _ => 'n'

/-- The data type letter of an export cell: the type its value binds, except that a text
starting with `=` is set back to a text, so that it is not taken for a formula. -/
def cellType (v : Value) : Char :=
  match v with
  | .str s => if s.startsWith "=" then 's' else bindType v
  | _ => bindType v

def levelFills : List (Level × String) :=
  [(.error, "FFFF6B6B"), (.warn, "FFFFD93D"), (.info, "FF6BCF7F"), (.debug, "FFD9D9D9")]

def sheetTitle : String := "Parking Logs"

/-- Builds the sheet of an export. -/
def build (rows : List Row) : Except Failure Sheet := do
  let body ← rows.mapM (fun r => r.cells.mapM cellValue)
  let levelCol := columnLetters 2
  let range ← match rows.length with
    | 0 => throw (.typeMismatch
        "expected <class 'openpyxl.worksheet.cell_range.MultiCellRange'>")
    | 1 => pure (levelCol ++ "2")
    | n => pure (levelCol ++ "2:" ++ levelCol ++ toString (n + 1))
  pure { title := sheetTitle, creator := generatedBy, freezePanes := "A2",
         rows := (Column.all.map (fun c => Value.str c.header)) :: body,
         widths := (List.range Column.all.length).zip (Column.all.map Column.width) |>.map
           (fun (i, w) => (columnLetters i, w)),
         rules := levelFills.map (fun (l, fill) => ⟨range, "\"" ++ l.text ++ "\"", fill⟩) }

/-- Checks that every cell can be written to the file, row by row: a stamp with an offset
cannot, nor an integer too large for a double. -/
def checkWritable (s : Sheet) : Except Failure Unit :=
  s.rows.forM (fun r => r.forM (fun v => match v with
    | .stamp t =>
      if t.offset.isSome then
        .error (.typeMismatch ("Excel does not support timezones in datetimes. " ++
          "The tzinfo in the datetime/time object must be set to None."))
      else .ok ()
    | .int n => if (Float.ofRatio? n 1).isSome then .ok ()
      else .error (.overflow "int too large to convert to float")
    | _ => .ok ()))

/-- Builds the sheet of an export and checks that it can be written. -/
def write (rows : List Row) : Except Failure Sheet := do
  let s ← build rows
  s.checkWritable
  pure s

end Sheet

end AuditTrail
