import AuditTrail.Service.Reports
import AuditTrail.Export.Content
import AuditTrail.Request.Basic

/-!
# Exports

`Service.exportEvents` writes the matching events, newest first and at most the cap, in the
requested format; it refuses a request without a format and filters that match nothing.
-/

namespace AuditTrail

/-- A written export. -/
structure ExportResult where
  content : ExportContent
  filename : String
  mediaType : String
  recordCount : Nat

namespace Service

def exportFailedText : String := "could not complete export"

/-- Writes an export. -/
def exportEvents (r : ExportRequest) : StateM Service (Except Failure ExportResult) := do
  let some fmt := r.format
    | return .error (.invalidFilter "format" "format must be one of csv, json or excel")
  let t ← now
  let applied := r.toValue.withoutNulls
  let cond := r.toFilters.cond false
  match ← onDb (Repo.findRecent cond r.maxRecords) with
  | .error _ => pure (.error (.exportFailed exportFailedText))
  | .ok [] => pure (.error (.invalidFilter "filters" "no events match the export filters"))
  | .ok docs => pure (do
      let rows ← docs.mapM (fun d => Row.ofDocument (.record d))
      let content ← (ExportContent.write fmt rows applied t).mapError
        (fun _ => .exportFailed exportFailedText)
      pure { content, recordCount := rows.length, mediaType := fmt.mediaType,
             filename := "parking-logs-" ++ Stamp.dateText t.date ++ "." ++ fmt.extension })

end Service

end AuditTrail
