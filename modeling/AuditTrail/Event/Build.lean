import AuditTrail.Event.Basic
import AuditTrail.Validation.Form
import AuditTrail.Value.Display
import AuditTrail.Failure

/-!
# Receiving events

`Event.receive` checks the parts of an event in the order level, action, message, user,
resource, resource id, details, context; the first part refused names the refusal.
-/

namespace AuditTrail

namespace Details

def fieldNames : List (String × String) :=
  [("previousState", "previous_state"), ("newState", "new_state"), ("error", "error"),
   ("stackTrace", "stack_trace"), ("reason", "reason"), ("metadata", "metadata")]

def anyValue (v : Value) : Except Issue.Kind Value := .ok v

def recordValue : Value → Except Issue.Kind Record
  | .record fs => .ok fs
  | _ => .error .dictType

def read (r : Record) : Except Issue Details := do
  let previousState ← Form.optional r "previousState" "previous_state" anyValue
  let newState ← Form.optional r "newState" "new_state" anyValue
  let error ← Form.optional r "error" "error" Lax.str
  let stackTrace ← Form.optional r "stackTrace" "stack_trace" Lax.str
  let reason ← Form.optional r "reason" "reason" Lax.str
  let metadata ← Form.optional r "metadata" "metadata" recordValue
  let extra ← Form.extras r fieldNames
  pure { previousState, newState, error, stackTrace, reason, metadata,
         extra }

end Details

namespace Context

def fieldNames : List (String × String) :=
  [("method", "method"), ("url", "url"), ("statusCode", "status_code"),
   ("responseTime", "response_time"), ("ip", "ip"), ("userAgent", "user_agent"),
   ("selfAudit", "self_audit")]

def read (r : Record) : Except Issue Context := do
  let method ← Form.optional r "method" "method" Lax.str
  let url ← Form.optional r "url" "url" Lax.str
  let statusCode ← Form.optional r "statusCode" "status_code" Lax.int
  let responseTime ← Form.optional r "responseTime" "response_time" Lax.float
  let ip ← Form.optional r "ip" "ip" Lax.str
  let userAgent ← Form.optional r "userAgent" "user_agent" Lax.str
  let selfAudit ← Form.optional r "selfAudit" "self_audit" Lax.bool
  let extra ← Form.extras r fieldNames
  pure { method, url, statusCode, responseTime, ip, userAgent, selfAudit,
         extra }

end Context

namespace Event

def messageField (v : Value) : Except Issue.Kind String := do
  let s ← Lax.constrainedStr v
  if s.isEmpty then throw (.stringTooShort 1)
  if Blank.isBlankText s then throw (.valueError "message must not be blank")
  pure s

def idField : Value → Option String
  | .null => none
  | v => some v.display

def partField {α : Type} (shape : String) (read : Record → Except Issue α) (v : Value)
    (name : String) : Except Issue (Option α) :=
  match v with
  | .null => .ok none
  | .record fs => (read fs).map some |>.mapError (fun i => ⟨name :: i.loc, i.kind⟩)
  | _ => .error ⟨[name], .modelType shape⟩

def partAt {α : Type} (name : String) (read : Value → Except Issue.Kind α) (v : Value) :
    Except Issue α :=
  (read v).mapError (fun k => ⟨[name], k⟩)

def check (level action message userId resource resourceId details context : Value) :
    Except Issue Event := do
  let level ← partAt "level" (Lax.choice Level.ofText? (.enum (Level.all.map Level.text))) level
  let action ← partAt "action" (Lax.choice Action.ofText? (.enum (Action.all.map Action.text)))
    action
  let message ← partAt "message" messageField message
  let resource ← match resource with
    | .null => pure none
    | v => (partAt "resource" Lax.str v).map some
  let details ← partField "LogDetails" Details.read details "details"
  let context ← partField "RequestContext" Context.read context "context"
  pure { level, action, message, userId := idField userId, resource,
         resourceId := idField resourceId, details, context }

/-- Receives an event, or refuses it with the reason of the first refused part. -/
def receive (level action message userId resource resourceId details context : Value) :
    Except Failure Event :=
  (check level action message userId resource resourceId details context).mapError
    (fun i => .invalidEvent ("invalid audit event: " ++ i.message))

end Event

end AuditTrail
