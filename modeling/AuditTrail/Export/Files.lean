import AuditTrail.Export.Row

/-!
# Export files as text

CSV: a header of the column keys and a line per row, fields quoted when they hold a comma, a
quote, CR or LF. JSON: the export's metadata and the rows, indented, ASCII only.
-/

namespace AuditTrail

namespace Csv

/-- The text of a cell: a member of an enumeration is its value, since it is a text; anything
else is its display text. -/
def cellText : Value → String
  | .null => ""
  | .member _ v => v
  | v => v.display

def needsQuotes (s : String) : Bool :=
  s.any (fun c => c == ',' || c == '"' || c == '\r' || c == '\n')

def field (s : String) : String :=
  if needsQuotes s then "\"" ++ String.join (s.toList.map (fun c =>
    if c == '"' then "\"\"" else c.toString)) ++ "\"" else s

def line (fields : List String) : String := ",".intercalate (fields.map field) ++ "\r\n"

/-- The CSV text of an export. -/
def write (rows : List Row) : String :=
  line (Column.all.map Column.key) ++ String.join (rows.map (fun r => line (r.cells.map cellText)))

end Csv

def exportVersion : String := "1.0"

namespace Value

mutual
/-- The value with what JSON cannot hold replaced by its plain text. -/
def encodable : Value → Value
  | .list xs => .list (encodableItems xs)
  | .tuple xs => .list (encodableItems xs)
  | .record fs => .record (encodableFields fs)
  | .member _ v => .str v
  | .stamp t => .str (Value.stamp t).display
  | .objectId n => .str (ObjectId.hex n)
  | .decimal d => .str (Decimal.text d)
  | v => v
def encodableItems : List Value → List Value
  | [] => []
  | x :: xs => encodable x :: encodableItems xs
def encodableFields : List (String × Value) → List (String × Value)
  | [] => []
  | (k, x) :: fs => (k, encodable x) :: encodableFields fs
end

end Value

namespace JsonExport

def document (rows : List Row) (filters : Value) (now : Stamp) : Value :=
  .record [("metadata", .record [("exportDate", .str now.iso),
      ("totalRecords", .int rows.length), ("generatedBy", .str generatedBy),
      ("version", .str exportVersion), ("filters", filters)]),
    ("logs", .list (rows.map (fun r => .record r.toRecord)))]

/-- The JSON text of an export. -/
def write (rows : List Row) (filters : Value) (now : Stamp) : String :=
  Json.render Json.Style.indented (document rows filters now).encodable

end JsonExport

end AuditTrail
