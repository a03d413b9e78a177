import AuditTrail.Event.Basic
import AuditTrail.Validation.Form
import AuditTrail.Validation.Stamp
import AuditTrail.Value.Display
import AuditTrail.Value.Plain
import AuditTrail.Failure

/-!
# Stored events as shown

`EventView.ofDocument` reads a stored document back as an event to show: the text of `_id` as
its id, details and context made plain, the fields checked in their fixed order.
-/

namespace AuditTrail

/-- A stored event as shown to administrators. -/
structure EventView where
  id : String
  level : Level
  action : Action
  message : String
  userId : Option String := none
  resource : Option String := none
  resourceId : Option String := none
  details : Option Record := none
  context : Option Record := none
  createdAt : Stamp
  updatedAt : Option Stamp := none

namespace EventView

def recordField : Value → Except Issue.Kind Record
  | .record fs => .ok fs
  | _ => .error .dictType

/-- Checks the fields of a document whose id is already text and whose details and context
are plain. -/
def check (r : Record) : Except Issue EventView := do
  let id ← Form.required r "id" "id" Lax.str
  let level ← Form.required r "level" "level"
    (Lax.choice Level.ofText? (.enum (Level.all.map Level.text)))
  let action ← Form.required r "action" "action"
    (Lax.choice Action.ofText? (.enum (Action.all.map Action.text)))
  let message ← Form.required r "message" "message" Lax.str
  let userId ← Form.optional r "userId" "user_id" Lax.str
  let resource ← Form.optional r "resource" "resource" Lax.str
  let resourceId ← Form.optional r "resourceId" "resource_id" Lax.str
  let details ← Form.optional r "details" "details" recordField
  let context ← Form.optional r "context" "context" recordField
  let createdAt ← Form.required r "createdAt" "created_at" StampReading.read
  let updatedAt ← Form.optional r "updatedAt" "updated_at" StampReading.read
  pure { id, level, action, message, userId, resource, resourceId, details, context,
         createdAt, updatedAt }

def plainPart (r : Record) (k : String) : Record :=
  match r.get? k with
  | some .null | none => r
  | some v => r.set k v.plain

/-- Reads a stored document as an event to show. -/
def ofDocument (doc : Record) : Except Failure EventView := do
  let some oid := doc.get? "_id" | throw (.missingKey (.str "_id"))
  let idValue : Value := match oid with
    | .null => .null
    | v => .str v.display
  let r := plainPart (plainPart ((doc.erase "_id").set "id" idValue) "details") "context"
  (check r).mapError Failure.unfit

def optText : Option String → Value
  | some s => .str s
  | none => .null

/-- The wire form; doubles in details and context that are not finite are written null. -/
def toValue (e : EventView) : Value :=
  .record [("id", .str e.id), ("level", .str e.level.text), ("action", .str e.action.text),
    ("message", .str e.message), ("userId", optText e.userId),
    ("resource", optText e.resource), ("resourceId", optText e.resourceId),
    ("details", (e.details.map (fun r => (Value.record r).jsonSafe)).getD .null),
    ("context", (e.context.map (fun r => (Value.record r).jsonSafe)).getD .null),
    ("createdAt", .str e.createdAt.isoZ),
    ("updatedAt", (e.updatedAt.map (fun t => Value.str t.isoZ)).getD .null)]

end EventView

end AuditTrail
