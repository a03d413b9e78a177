import AuditTrail.Event.Kind
import AuditTrail.Time.Stamp
import AuditTrail.Value

/-!
# Events

An event of the audit log and `Event.toDocument now`, the document stored for it: the set fields
in their fixed order under their wire names, then the creation and update stamps, both `now`.
-/

namespace AuditTrail

/-- The payload of an event. -/
structure Details where
  previousState : Option Value := none
  newState : Option Value := none
  error : Option String := none
  stackTrace : Option String := none
  reason : Option String := none
  metadata : Option Record := none
  extra : Record := []

/-- The request that produced an event. -/
structure Context where
  method : Option String := none
  url : Option String := none
  statusCode : Option Int := none
  responseTime : Option Float := none
  ip : Option String := none
  userAgent : Option String := none
  /-- Marks the record of an administrator's own viewing of the log. -/
  selfAudit : Option Bool := none
  extra : Record := []

/-- An event as received. -/
structure Event where
  level : Level
  action : Action
  message : String
  userId : Option String := none
  resource : Option String := none
  resourceId : Option String := none
  details : Option Details := none
  context : Option Context := none

def setEntries (es : List (String × Option Value)) : Record :=
  es.filterMap (fun e => e.2.map (e.1, ·))

def nonNull (r : Record) : Record := r.filter (fun p => !p.2.isNull)

namespace Details

def toRecord (d : Details) : Record :=
  setEntries [("previousState", d.previousState), ("newState", d.newState),
    ("error", d.error.map .str), ("stackTrace", d.stackTrace.map .str),
    ("reason", d.reason.map .str), ("metadata", d.metadata.map .record)] ++ nonNull d.extra

end Details

namespace Context

def toRecord (c : Context) : Record :=
  setEntries [("method", c.method.map .str), ("url", c.url.map .str),
    ("statusCode", c.statusCode.map .int), ("responseTime", c.responseTime.map .float),
    ("ip", c.ip.map .str), ("userAgent", c.userAgent.map .str),
    ("selfAudit", c.selfAudit.map .bool)] ++ nonNull c.extra

end Context

/-- The document stored for an event received at `now`. -/
def Event.toDocument (e : Event) (now : Stamp) : Record :=
  setEntries [("level", some (.str e.level.text)), ("action", some (.str e.action.text)),
    ("message", some (.str e.message)), ("userId", e.userId.map .str),
    ("resource", e.resource.map .str), ("resourceId", e.resourceId.map .str),
    ("details", e.details.map (.record ·.toRecord)),
    ("context", e.context.map (.record ·.toRecord))] ++
  [("createdAt", .stamp now), ("updatedAt", .stamp now)]

end AuditTrail
