import AuditTrail.Value
import AuditTrail.Event.Kind

/-!
# Filter, listing and export requests

What an administrator may ask once read and checked: `Filters`, a `Listing` (sort, page, page
size 1 to 1000) and an `ExportRequest` (format, record cap 1 to 50000).
-/

namespace AuditTrail

/-- The filters shared by listings and exports. -/
structure Filters where
  level : Option Level := none
  action : Option ActionFilter := none
  userId : Option String := none
  resource : Option String := none
  resourceId : Option String := none
  ip : Option String := none
  startDate : Option Stamp := none
  endDate : Option Stamp := none
  search : Option String := none
  deriving DecidableEq, Repr

/-- A request for one page of events. -/
structure Listing extends Filters where
  sortBy : SortField := .createdAt
  sortOrder : SortOrder := .desc
  page : Nat := 1
  pageSize : Nat := 50
  deriving DecidableEq, Repr

/-- A request for an export file. -/
structure ExportRequest extends Filters where
  format : Option ExportFormat := none
  maxRecords : Nat := 10000
  deriving DecidableEq, Repr

namespace Filters

def optStr : Option String → Value
  | some s => .str s
  | none => .null

def optStamp : Option Stamp → Value
  | some t => .str t.isoZ
  | none => .null

def fields (f : Filters) : Record :=
  [("level", optStr (f.level.map Level.text)),
   ("action", optStr (f.action.map ActionFilter.text)),
   ("userId", optStr f.userId),
   ("resource", optStr f.resource),
   ("resourceId", optStr f.resourceId),
   ("ip", optStr f.ip),
   ("startDate", optStamp f.startDate),
   ("endDate", optStamp f.endDate),
   ("search", optStr f.search)]

end Filters

def Listing.toValue (q : Listing) : Value :=
  .record (q.toFilters.fields ++
    [("sortBy", .str q.sortBy.text), ("sortOrder", .str q.sortOrder.text),
     ("page", .int q.page), ("pageSize", .int q.pageSize)])

def ExportRequest.toValue (r : ExportRequest) : Value :=
  .record (r.toFilters.fields ++
    [("format", Filters.optStr (r.format.map ExportFormat.text)), ("maxRecords", .int r.maxRecords)])

def Value.withoutNulls : Value → Value
  | .record fs => .record (fs.filter (fun p => !p.2.isNull))
  | v => v

end AuditTrail
