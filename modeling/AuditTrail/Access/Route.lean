/-!
# Administrative actions

A request path, split into its non-empty segments, is matched against a table of patterns (a
star matches one segment); the most specific match wins: most literal segments, then most
segments, then the earlier entry.
-/

namespace AuditTrail

/-- What an administrator did. -/
inductive AdminAction where
  | exportLogs | viewStatistics | viewCriticalEvents | systemHealthCheck | cleanupLogs
  | viewSpecificLog | queryLogs | viewDashboard | unknown
  deriving DecidableEq, Repr

namespace AdminAction

def text : AdminAction → String
  | .exportLogs => "export_logs"
  | .viewStatistics => "view_statistics"
  | .viewCriticalEvents => "view_critical_events"
  | .systemHealthCheck => "system_health_check"
  | .cleanupLogs => "cleanup_logs"
  | .viewSpecificLog => "view_specific_log"
  | .queryLogs => "query_logs"
  | .viewDashboard => "view_dashboard"
  | .unknown => "unknown_admin_action"

def isSensitive : AdminAction → Bool
  | .exportLogs | .viewCriticalEvents | .viewStatistics | .systemHealthCheck => true
  | _ => false

def isHighPrivilege : AdminAction → Bool
  | .exportLogs | .viewCriticalEvents | .systemHealthCheck | .cleanupLogs => true
  | _ => false

end AdminAction

def pathSegments (path : String) : List String :=
  (path.splitOn "/").filter (· ≠ "")

/-- One segment of a route pattern: a literal, or a star for any one segment. -/
inductive Segment where
  | lit (s : String)
  | any
  deriving DecidableEq, Repr

namespace Segment

def accepts : Segment → String → Bool
  | .lit s, t => s == t
  | .any, _ => true

def isLit : Segment → Bool
  | .lit _ => true
  | .any => false

end Segment

/-- A route pattern with its action. -/
structure Route where
  pattern : List Segment
  action : AdminAction
  deriving DecidableEq, Repr

namespace Route

def table : List Route :=
  let logs := [Segment.lit "admin", .lit "logs"]
  [⟨logs ++ [.lit "export"], .exportLogs⟩,
   ⟨logs ++ [.lit "statistics"], .viewStatistics⟩,
   ⟨logs ++ [.lit "critical"], .viewCriticalEvents⟩,
   ⟨logs ++ [.lit "health"], .systemHealthCheck⟩,
   ⟨logs ++ [.lit "cleanup"], .cleanupLogs⟩,
   ⟨logs ++ [.any], .viewSpecificLog⟩,
   ⟨logs, .queryLogs⟩,
   ⟨[.lit "admin", .lit "dashboard"], .viewDashboard⟩]

def fits (r : Route) (segs : List String) : Bool :=
  r.pattern.length ≤ segs.length && (List.zipWith Segment.accepts r.pattern segs).all id

def rank (r : Route) : Nat × Nat := ((r.pattern.filter Segment.isLit).length, r.pattern.length)

def rankAbove (a b : Nat × Nat) : Bool := a.1 > b.1 || (a.1 == b.1 && a.2 > b.2)

/-- The most specific route matching a path's segments, the earlier one among equals. -/
def best (segs : List String) : List Route → Option Route
  | [] => none
  | r :: rs =>
    let rest := best segs rs
    if r.fits segs then
      match rest with
      | some q => if rankAbove q.rank r.rank then some q else some r
      | none => some r
    else rest

end Route

/-- The administrative action of a request path. -/
def AdminAction.ofPath (path : String) : AdminAction :=
  ((Route.best (pathSegments path) Route.table).map (·.action)).getD .unknown

end AuditTrail
