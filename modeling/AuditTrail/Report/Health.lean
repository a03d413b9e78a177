import AuditTrail.Number.Exact
import AuditTrail.Value

/-!
# Alert levels and health

Above 50 critical events the alert is high, above 10 medium. A high alert is critical, a medium
one or a quiet hour a warning, anything else healthy.
-/

namespace AuditTrail

/-- How alarming the number of critical events is. -/
inductive AlertLevel where
  | low | medium | high
  deriving DecidableEq, Repr

namespace AlertLevel

def all : List AlertLevel := [.low, .medium, .high]

def text : AlertLevel → String
  | .low => "LOW"
  | .medium => "MEDIUM"
  | .high => "HIGH"

def ofText? (s : String) : Option AlertLevel := all.find? (·.text == s)

def ofValue? (v : Value) : Option AlertLevel := v.str?.bind ofText?

def thresholds : List (Int × AlertLevel) := [(50, .high), (10, .medium)]

/-- The alert level of a number of critical events. -/
def ofCount (n : Exact) : AlertLevel :=
  ((thresholds.find? (fun t => n.gtInt t.1)).map (·.2)).getD .low

end AlertLevel

/-- The health of the log. -/
inductive HealthStatus where
  | healthy | warning | critical
  deriving DecidableEq, Repr

namespace HealthStatus

def all : List HealthStatus := [.healthy, .warning, .critical]

def text : HealthStatus → String
  | .healthy => "healthy"
  | .warning => "warning"
  | .critical => "critical"

def ofText? (s : String) : Option HealthStatus := all.find? (·.text == s)

def ofValue? (v : Value) : Option HealthStatus := v.str?.bind ofText?

/-- The health given the alert level (if it is one of the levels) and whether the last hour
was quiet. -/
def judge (alert : Option AlertLevel) (quiet : Bool) : HealthStatus :=
  if alert = some .high then .critical
  else if alert = some .medium ∨ quiet = true then .warning
  else .healthy

/-- What to do about a status (if it is one of the statuses), given whether the last hour was
quiet and the number of critical events. -/
def advice (status : Option HealthStatus) (quiet : Bool) (critical : Exact) : List String :=
  let steps :=
    (if status = some .critical then
      ["System in critical state: review error events immediately",
       "Analyse error logs and take corrective action"] else []) ++
    (if status = some .warning then
      (if critical.gtInt 10 then ["High number of critical events: monitor closely"] else []) ++
      (if quiet then ["No recent events: check that audit logging is working"] else [])
     else []) ++
    (if critical.gtInt 0 then ["Review the critical events view"] else [])
  if steps.isEmpty then ["System working normally"] else steps

end HealthStatus

end AuditTrail
