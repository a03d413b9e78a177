import AuditTrail.Request.Basic
import AuditTrail.Validation.Scalar
import AuditTrail.Validation.Stamp
import AuditTrail.Failure
import AuditTrail.Validation.Form

/-!
# Reading requests

Empty entries are dropped, each field is read laxly under its wire name or its second spelling,
the first failing field names the refusal, and only then is the window checked; an overflowing
bound fails the request first.
-/

namespace AuditTrail


namespace Filters

def levelField : Value → Except Issue.Kind Level :=
  Lax.choice Level.ofText? (.enum (Level.all.map Level.text))

def actionField (v : Value) : Except Issue.Kind ActionFilter := do
  let s ← Lax.str v
  match ActionFilter.ofText? s with
  | some a => pure a
  | none => throw (.valueError
      ("action must be one of the logged actions or '" ++ ActionFilter.reservationsText ++ "'"))

def boundField (v : Value) : Except Issue.Kind Stamp :=
  (StampReading.read v).map Stamp.toNaiveUtc

/-- Whether a window bound reads as a stamp whose naive UTC reading leaves the years 1 to
9999. -/
def boundOverflows (r : Record) (wire other : String) : Bool :=
  match Form.lookup r wire other with
  | some (_, v) => match StampReading.read v with
    | .ok t => !t.toNaiveUtc.inRange
    | .error _ => false
  | none => false

/-- The bound check that comes before any refusal of a field: a bound that reads but whose
UTC reading cannot be represented fails the whole request, whatever else is wrong with it. -/
def checkBounds (r : Record) : Except Failure Unit :=
  if boundOverflows r "startDate" "start_date" || boundOverflows r "endDate" "end_date" then
    .error (.overflow "date value out of range")
  else .ok ()

/-- The bound check of raw parameters, once their empty entries are dropped. -/
def checkRawBounds : Value → Except Failure Unit
  | .record fs => checkBounds (Form.dropEmpty fs)
  | _ => .ok ()

def readFields (r : Record) : Except Issue Filters := do
  let level ← Form.optional r "level" "level" levelField
  let action ← Form.optional r "action" "action" actionField
  let userId ← Form.optional r "userId" "user_id" Lax.str
  let resource ← Form.optional r "resource" "resource" Lax.str
  let resourceId ← Form.optional r "resourceId" "resource_id" Lax.str
  let ip ← Form.optional r "ip" "ip" Lax.str
  let startDate ← Form.optional r "startDate" "start_date" boundField
  let endDate ← Form.optional r "endDate" "end_date" boundField
  let search ← Form.optional r "search" "search" Lax.str
  pure { level, action, userId, resource, resourceId, ip, startDate, endDate, search }

def checkWindow (f : Filters) : Except Issue Unit :=
  match f.startDate, f.endDate with
  | some s, some e => if e.wall < s.wall then
      .error ⟨[], .valueError "endDate must not be before startDate"⟩ else .ok ()
  | _, _ => .ok ()

end Filters

namespace Listing

def maxPageSize : Nat := 1000

def sortByField : Value → Except Issue.Kind SortField :=
  Lax.choice SortField.ofText? (.literal (SortField.all.map SortField.text))

/-- A sort direction; a text is lower-cased first. -/
def sortOrderField (v : Value) : Except Issue.Kind SortOrder :=
  let v := match v with
    | .str s => Value.str (String.ofList (s.toList.map Char.toLower))
    | v => v
  Lax.choice SortOrder.ofText? (.enum (SortOrder.all.map SortOrder.text)) v

def pageSizeField (v : Value) : Except Issue.Kind Nat := do
  let n ← Form.intAtLeast 1 v
  if n > maxPageSize then throw (.valueError ("pageSize must not exceed " ++ toString maxPageSize))
  pure n.toNat

/-- Reads a listing request. -/
def read (v : Value) : Except Issue Listing := do
  let r ← match v with
    | .record fs => pure (Form.dropEmpty fs)
    | _ => throw ⟨[], .modelType "LogsQuery"⟩
  let f ← Filters.readFields r
  let sortBy ← Form.withDefault r "sortBy" "sort_by" .createdAt sortByField
  let sortOrder ← Form.withDefault r "sortOrder" "sort_order" .desc sortOrderField
  let page ← Form.withDefault r "page" "page" 1 (fun v => (Form.intAtLeast 1 v).map Int.toNat)
  let pageSize ← Form.withDefault r "pageSize" "page_size" 50 pageSizeField
  f.checkWindow
  pure { f with sortBy, sortOrder, page, pageSize }

/-- Reads a listing request, a refusal naming the offending parameter. -/
def parse (v : Value) : Except Failure Listing := do
  Filters.checkRawBounds v
  (read v).mapError Failure.ofIssue

end Listing

namespace ExportRequest

def defaultRecords : Nat := 10000
def maxRecordsCeiling : Nat := 50000

def formatField : Value → Except Issue.Kind ExportFormat :=
  Lax.choice ExportFormat.ofText? (.enum (ExportFormat.all.map ExportFormat.text))

def maxRecordsField (v : Value) : Except Issue.Kind Nat := do
  let n ← Form.intAtLeast 1 v
  pure (min n.toNat maxRecordsCeiling)

/-- Reads an export request once its format is known to be present. -/
def read (v : Value) : Except Issue ExportRequest := do
  let r ← match v with
    | .record fs => pure (Form.dropEmpty fs)
    | _ => throw ⟨[], .modelType "ExportRequest"⟩
  let f ← Filters.readFields r
  let format ← Form.optional r "format" "format" formatField
  let maxRecords ← Form.withDefault r "maxRecords" "max_records" defaultRecords maxRecordsField
  f.checkWindow
  pure { f with format, maxRecords }

/-- Reads an export request: the raw parameters must be a record whose `format` entry counts
as set. -/
def parse (v : Value) : Except Failure ExportRequest :=
  match v with
  | .record fs =>
    if ((Record.get? fs "format").map Value.truthy).getD false then do
      Filters.checkRawBounds v
      (read v).mapError Failure.ofIssue
    else .error (.invalidFilter "format" "format is required (csv, json or excel)")
  | _ => .error (.noAttribute v.typeName "get")

end ExportRequest

end AuditTrail
