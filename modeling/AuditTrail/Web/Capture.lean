import AuditTrail.Web.Message
import AuditTrail.Web.Target
import AuditTrail.Access.Route
import AuditTrail.Service.Basic

/-!
# Access records

A request under `/admin/logs` or `/admin/dashboard` leaves an access record, and a high-privilege
action a review record too; writing them never fails the request.
-/

namespace AuditTrail

def watchedPrefixes : List String := ["/admin/logs", "/admin/dashboard"]

def isWatched (path : String) : Bool := watchedPrefixes.any (fun p => path.startsWith p)

/-- What a finished request is recorded with. -/
structure Observed where
  status : Nat
  /-- The size of the response body in bytes. -/
  length : Nat
  /-- The number of records the response reported. -/
  records : Nat

namespace Observed

def successful (o : Observed) : Bool := 200 ≤ o.status && o.status < 300

def ofResponse (r : Response) : Observed := ⟨r.status, r.length, r.recordCount⟩

def crashed : Observed := ⟨500, 0, 0⟩

end Observed

def Actor.snapshot : Option Actor → Value
  | some a => .record [("userId", .str a.userId),
      ("email", (a.email.map Value.str).getD .null), ("role", .str a.role)]
  | none => .record [("userId", .null), ("email", .null), ("role", .null)]

namespace HttpRequest

def ip (req : HttpRequest) : String := req.headers.clientIp req.peer

def userAgent (req : HttpRequest) : String := (req.headers.get? "user-agent").getD "unknown"

def urlPath (req : HttpRequest) : String := Target.urlPath req.path

def accessEvent (req : HttpRequest) (actor : Option Actor) (o : Observed) : Event :=
  let action := AdminAction.ofPath req.urlPath
  let params := req.query.toRecord
  { level := if o.successful then .info else .warn
    action := .accessLogs
    message := "Admin access: " ++ action.text
    userId := some ((actor.map (·.userId)).getD "unknown")
    resource := some "admin_panel"
    details := some
      { metadata := some
          [("adminAction", .str action.text), ("queryParams", .record params),
            ("success", .bool o.successful), ("recordsAffected", .int o.records),
            ("exportFormat", ((req.query.last? "format").map Value.str).getD .null),
            ("filterApplied", .bool !params.isEmpty), ("contentLength", .int o.length)] }
    context := some
      { method := some req.method, url := some req.urlPath, statusCode := some o.status,
        responseTime := some 0.0, ip := some req.ip, userAgent := some req.userAgent,
        selfAudit := some true,
        extra := [("adminOperation", .bool true),
          ("sensitiveDataAccess", .bool action.isSensitive),
          ("highPrivilegeAction", .bool action.isHighPrivilege)] } }

def reviewEvent (req : HttpRequest) (actor : Option Actor) (o : Observed) : Event :=
  let action := AdminAction.ofPath req.urlPath
  { level := .warn
    action := .accessLogs
    message := "High-sensitivity administrative operation executed"
    userId := some ((actor.map (·.userId)).getD "unknown")
    resource := some "high_privilege_operation"
    details := some
      { metadata := some
          [("operation", .str action.text), ("ip", .str req.ip),
            ("userContext", Actor.snapshot actor)] }
    context := some
      { method := some req.method, url := some req.urlPath, statusCode := some o.status,
        ip := some req.ip, userAgent := some req.userAgent,
        extra := [("criticalOperation", .bool true), ("requiresReview", .bool true)] } }

/-- The records a finished request leaves, in the order they are written. -/
def captureEvents (req : HttpRequest) (actor : Option Actor) (o : Observed) : List Event :=
  if !isWatched req.urlPath then []
  else if (AdminAction.ofPath req.urlPath).isHighPrivilege then
    [req.accessEvent actor o, req.reviewEvent actor o]
  else [req.accessEvent actor o]

end HttpRequest

/-- Writes the records a finished request leaves. -/
def Service.capture (req : HttpRequest) (actor : Option Actor) (o : Observed) :
    StateM Service Unit :=
  (req.captureEvents actor o).forM Service.store

end AuditTrail
