import AuditTrail.Service.Basic
import AuditTrail.Report.Paging
import AuditTrail.Request.Select

/-!
# Listing events

`Service.query` reads a page, the total and a summary as one gathering; a failed read fails the
listing with its generic failure.
-/

namespace AuditTrail

/-- A summary of the events matching a listing. -/
structure Summary where
  errorCount : Nat := 0
  warnCount : Nat := 0
  infoCount : Nat := 0
  debugCount : Nat := 0
  uniqueUsers : Nat := 0
  oldest : Option Stamp := none
  newest : Option Stamp := none

/-- One page of a listing. -/
structure LogsPage where
  events : List EventView
  pagination : Pagination
  summary : Summary

def Stamp.optValue : Option Stamp → Value
  | some t => .str t.isoZ
  | none => .null

namespace Summary

def countOf (counts : List (Value × Nat)) (l : Level) : Nat :=
  ((counts.find? (fun p => Value.looseEq p.1 (.str l.text))).map (·.2)).getD 0

def rangeEnd (name : String) : Option Value → Except Failure (Option Stamp)
  | none => .ok none
  | some v => (StampReading.read v).map some |>.mapError (fun k => .unfit ⟨["dateRange", name], k⟩)

/-- The summary of the per-level counts, the number of users and the range of creation
values. -/
def ofReads (counts : List (Value × Nat)) (users : Nat) (range : Option Value × Option Value) :
    Except Failure Summary := do
  let oldest ← rangeEnd "oldest" range.1
  let newest ← rangeEnd "newest" range.2
  pure { errorCount := countOf counts .error, warnCount := countOf counts .warn,
         infoCount := countOf counts .info, debugCount := countOf counts .debug,
         uniqueUsers := users, oldest, newest }

def toValue (s : Summary) : Value :=
  .record [("errorCount", .int s.errorCount), ("warnCount", .int s.warnCount),
    ("infoCount", .int s.infoCount), ("debugCount", .int s.debugCount),
    ("uniqueUsers", .int s.uniqueUsers),
    ("dateRange", .record [("oldest", Stamp.optValue s.oldest),
      ("newest", Stamp.optValue s.newest)])]

end Summary

def LogsPage.toValue (p : LogsPage) : Value :=
  .record [("events", .list (p.events.map EventView.toValue)),
    ("pagination", p.pagination.toValue), ("summary", p.summary.toValue)]

def queryFailedText : String := "could not complete query"

def failureOf {α : Type} : Except Failure α → Option Failure
  | .error f => some f
  | .ok _ => none

/-- Answers a listing; `excludeSelfAudit` leaves out the log's own access records. -/
def Service.query (q : Listing) (excludeSelfAudit : Bool) :
    StateM Service (Except Failure LogsPage) := do
  let cond := q.toFilters.cond excludeSelfAudit
  let skip := (q.page - 1) * q.pageSize
  let summarize (c : Collection) : Except Failure Summary := do
    let counts ← c.levelCounts cond
    let users ← c.distinctCount cond "userId"
    Summary.ofReads counts users (← c.createdRange cond)
  let failed ← Service.onDb (Db.gather [
    .read ⟨.find, fun c => failureOf (c.find cond q.sortKeys skip q.pageSize)⟩ false,
    .read ⟨.countDocuments, fun c => failureOf (c.count cond)⟩ false,
    .fanOut [⟨.aggregate, fun c => failureOf (c.levelCounts cond)⟩,
        ⟨.distinct, fun c => failureOf (c.distinctCount cond "userId")⟩,
        ⟨.aggregate, fun c => failureOf (c.createdRange cond)⟩]
      (fun c => failureOf (summarize c))])
  let c := (← get).db.coll
  if failed then return .error (.queryFailed queryFailedText)
  let reads : Except Failure (List Record × Nat × Summary) := do
    let docs ← c.find cond q.sortKeys skip q.pageSize
    let total ← c.count cond
    pure (docs, total, ← summarize c)
  match reads with
  | .error _ => return .error (.queryFailed queryFailedText)
  | .ok (docs, total, summary) =>
    return do
      let events ← docs.mapM EventView.ofDocument
      let pagination ← Pagination.build total q.page q.pageSize
      pure { events, pagination, summary }

end AuditTrail
