import AuditTrail.Web.Message
import AuditTrail.Web.Documentation
import AuditTrail.Service.Listing
import AuditTrail.Service.Reports
import AuditTrail.Service.Export
import AuditTrail.Request.Read

/-!
# Endpoints

Six administrative endpoints under `/admin/logs`, a greeting and the documentation pages;
`Dispatch.ofRequest` finds where a request goes, and every administrative endpoint asks for an
administrator first.
-/

namespace AuditTrail

/-- The endpoints of the service. -/
inductive Endpoint where
  | listLogs | statistics | critical | health | exportLogs | cleanup | home
  /-- A documentation page. -/
  | page (p : DocPage)
  /-- The interface description. -/
  | description
  deriving DecidableEq, Repr

namespace Endpoint

/-- The endpoints that answer GET and HEAD alike: the documentation and its description, in
the order the service lists them. -/
def documentation : List (String × Endpoint) :=
  (DocPage.descriptionPath, .description) :: DocPage.all.map (fun p => (p.path, .page p))

def table : List (String × String × Endpoint) :=
  documentation.flatMap (fun (path, e) => [("GET", path, e), ("HEAD", path, e)]) ++
  [("GET", "/admin/logs", .listLogs), ("GET", "/admin/logs/statistics", .statistics),
    ("GET", "/admin/logs/critical", .critical), ("GET", "/admin/logs/health", .health),
    ("GET", "/admin/logs/export", .exportLogs), ("DELETE", "/admin/logs/cleanup", .cleanup),
    ("GET", "/", .home)]

def knows (path : String) : Bool := table.any (·.2.1 == path)

end Endpoint

/-- Where a request goes. -/
inductive Dispatch where
  | serve (e : Endpoint)
  | wrongMethod
  | redirect (path : String)
  | notFound
  deriving DecidableEq, Repr

def dropTrailingSlashes (path : String) : String :=
  String.ofList (path.toList.reverse.dropWhile (· == '/')).reverse

/-- Where a request with a method and a path goes. A path other than `/` that no endpoint has
is tried once more with its trailing slashes removed, or with one added if it has none. -/
def Dispatch.ofRequest (method path : String) : Dispatch :=
  match Endpoint.table.find? (fun r => r.1 == method && r.2.1 == path) with
  | some r => .serve r.2.2
  | none =>
    if Endpoint.knows path then .wrongMethod
    else if path == "/" then .notFound
    else
      let other := if path.endsWith "/" then dropTrailingSlashes path else path ++ "/"
      if Endpoint.knows other then .redirect other else .notFound

def intParam (field : String) (value : Option String) (default : Int) : Except Failure Int :=
  match value with
  | none | some "" => .ok default
  | some s => match Lax.intOfText? s with
    | some n => .ok n
    | none => .error (.invalidFilter field (field ++ " must be an integer"))

namespace QueryPairs

def entry (q : QueryPairs) (k : String) : String × Value :=
  (k, ((q.last? k).map Value.str).getD .null)

def filterRecord (q : QueryPairs) : Record :=
  ["level", "action", "userId", "resource", "resourceId", "ip", "startDate", "endDate",
    "search"].map q.entry

def listingRecord (q : QueryPairs) : Record :=
  q.filterRecord ++ ["sortBy", "sortOrder", "page", "pageSize"].map q.entry

def exportRecord (q : QueryPairs) : Except Failure Record :=
  let base := q.filterRecord ++ [q.entry "format"]
  match q.last? "maxRecords" with
  | none | some "" => .ok base
  | some s => (intParam "maxRecords" (some s) 0).map (fun n => base ++ [("maxRecords", .int n)])

end QueryPairs

def ageThresholdRequired : Failure :=
  .invalidFilter "ageThresholdDays" "ageThresholdDays is required"

namespace Response

def counted (v : Value) (n : Nat) : Response :=
  { json 200 v with headers := [("x-result-count", toString n)] }

def attachment (r : ExportResult) : Response :=
  { status := 200, contentType := some (mediaType r.mediaType),
    headers := [("content-disposition", "attachment; filename=\"" ++ r.filename ++ "\""),
      ("x-result-count", toString r.recordCount)],
    body := match r.content with
      | .text s => .text s
      | .sheet s => .sheet s }

def greeting : Response := json 200 (.record [("ok", .bool true), ("docs", .str "/docs")])

def notFound : Response := detail 404 "Not Found"

end Response

/-- The answer of an endpoint open to anyone, if it is one: the greeting, a documentation
page, and the interface description, which is not found. -/
def Endpoint.openAnswer? : Endpoint → Option Response
  | .home => some Response.greeting
  | .page p => some (Response.docPage p)
  | .description => some Response.notFound
  | _ => none

/-- The computations of endpoints: on the service, ending early on a failure. -/
abbrev Handler := ExceptT Failure (StateM Service)

namespace Handler

def check {α : Type} (x : Except Failure α) : Handler α := ExceptT.mk (pure x)

def call {α : Type} (x : StateM Service (Except Failure α)) : Handler α := ExceptT.mk x

end Handler

namespace Service

/-- The answer of an administrative endpoint to an administrator. -/
def answer (a : Actor) (q : QueryPairs) : Endpoint → Handler Response
  | .listLogs => do
    let l ← Handler.check (Listing.parse (.record q.listingRecord))
    let p ← Handler.call (Service.query l true)
    pure (Response.counted p.toValue p.events.length)
  | .statistics => do
    let days ← Handler.check (intParam "daysBack" (q.last? "daysBack") 30)
    let s ← Handler.call (Service.statistics (.int days))
    pure (Response.counted (.list (s.map DailyStatistics.toValue)) s.length)
  | .critical => do
    let hours ← Handler.check (intParam "windowHours" (q.last? "windowHours") 24)
    let c ← Handler.call (Service.critical (.int hours))
    pure (Response.counted c.toValue c.events.length)
  | .health => do
    let h ← Handler.call (Service.health a.userId)
    pure (Response.json 200 h.toValue)
  | .exportLogs => do
    let fields ← Handler.check q.exportRecord
    let r ← Handler.check (ExportRequest.parse (.record fields))
    let e ← Handler.call (Service.exportEvents r)
    pure (Response.attachment e)
  | .cleanup => do
    let raw := q.last? "ageThresholdDays"
    if raw.isNone || raw == some "" then throw ageThresholdRequired
    let days ← Handler.check (intParam "ageThresholdDays" raw 0)
    let p ← Handler.call (Service.purge (.int days))
    pure (Response.counted p.toValue p.deleted)
  | e => pure ((Endpoint.openAnswer? e).getD Response.notFound)

/-- Serves a request at an endpoint: the administrator it was served to, once the guard has
let it through, and the answer or the failure. An endpoint open to anyone has no guard. -/
def serve (req : HttpRequest) (e : Endpoint) :
    StateM Service (Option Actor × Except Failure Response) :=
  match e.openAnswer? with
  | some r => pure (none, .ok r)
  | none =>
    match Actor.ofHeaders req.headers with
    | .error f => pure (none, .error f)
    | .ok a => do
      let r ← (answer a req.query e).run
      pure (some a, r)

end Service

end AuditTrail
