import AuditTrail.Export.Files
import AuditTrail.Export.SheetFile

/-!
# Export content

An export file in each format: CSV or JSON text, or a workbook. A CSV text with a lone surrogate
has no UTF-8 file; the JSON text is ASCII and always has one.
-/

namespace AuditTrail

/-- The content of an export file. -/
inductive ExportContent where
  | text (s : String)
  | sheet (s : Sheet)

/-- Writes rows in a format; `filters` and `now` go into the JSON metadata. -/
def ExportContent.write (fmt : ExportFormat) (rows : List Row) (filters : Value) (now : Stamp) :
    Except Failure ExportContent :=
  match fmt with
  | .csv =>
    let text := Csv.write rows
    match utf8Refusal? text with
    | some m => .error (.unencodable m)
    | none => .ok (.text text)
  | .json => .ok (.text (JsonExport.write rows filters now))
  | .excel => (Sheet.write rows).map .sheet

end AuditTrail
