import AuditTrail.Value.Display
import AuditTrail.Value.Plain
import AuditTrail.Json.Write
import AuditTrail.Failure

/-!
# Export rows

A stored document flattened to seventeen columns (`Column.all`), `N/A` for what is missing, null
or an empty text; details, context or a creation stamp of the wrong kind refuse it.
-/

namespace AuditTrail

/-- The columns of an export. -/
inductive Column where
  | id | timestamp | level | action | message | userId | resource | resourceId | ip | userAgent
  | method | url | statusCode | responseTime | errorMessage | errorStack | metadata
  deriving DecidableEq, Repr

namespace Column

def all : List Column :=
  [.id, .timestamp, .level, .action, .message, .userId, .resource, .resourceId, .ip, .userAgent,
   .method, .url, .statusCode, .responseTime, .errorMessage, .errorStack, .metadata]

def key : Column → String
  | .id => "id"
  | .timestamp => "timestamp"
  | .level => "level"
  | .action => "action"
  | .message => "message"
  | .userId => "userId"
  | .resource => "resource"
  | .resourceId => "resourceId"
  | .ip => "ip"
  | .userAgent => "userAgent"
  | .method => "method"
  | .url => "url"
  | .statusCode => "statusCode"
  | .responseTime => "responseTime"
  | .errorMessage => "errorMessage"
  | .errorStack => "errorStack"
  | .metadata => "metadata"

def header : Column → String
  | .id => "ID"
  | .timestamp => "Timestamp"
  | .level => "Level"
  | .action => "Action"
  | .message => "Message"
  | .userId => "User ID"
  | .resource => "Resource"
  | .resourceId => "Resource ID"
  | .ip => "IP"
  | .userAgent => "User Agent"
  | .method => "HTTP Method"
  | .url => "URL"
  | .statusCode => "Status Code"
  | .responseTime => "Response Time (ms)"
  | .errorMessage => "Error"
  | .errorStack => "Stack Trace"
  | .metadata => "Metadata"

def width : Column → Nat
  | .id => 26
  | .timestamp => 24
  | .level => 10
  | .action => 20
  | .message => 40
  | .userId => 26
  | .resource => 15
  | .resourceId => 26
  | .ip => 16
  | .userAgent => 30
  | .method => 12
  | .url => 40
  | .statusCode => 12
  | .responseTime => 18
  | .errorMessage => 40
  | .errorStack => 50
  | .metadata => 30

end Column

/-- A flat row: a value per column. -/
structure Row where
  cell : Column → Value

def generatedBy : String := "Parking API Admin Panel"

def notAvailable : String := "N/A"

namespace Row

def cells (r : Row) : List Value := Column.all.map r.cell

def toRecord (r : Row) : Record := Column.all.map (fun c => (c.key, r.cell c))

/-- A value, or `N/A` when it is missing, null or an empty text. -/
def orMissing : Option Value → Value
  | none | some .null | some (.str "") => .str notAvailable
  | some v => v

/-- A part of a document as a record: unset or false counts as empty; anything else must be a
record. -/
def part (v : Option Value) : Except Failure Record :=
  match v with
  | none => .ok []
  | some (.record fs) => .ok fs
  | some v => if v.truthy then .error (.noAttribute v.typeName "get") else .ok []

def stampText : Option Value → Except Failure Value
  | some (.stamp t) => .ok (.str t.iso)
  | some v => if v.truthy then .error (.noAttribute v.typeName "isoformat")
    else .ok (.str notAvailable)
  | none => .ok (.str notAvailable)

/-- Flattens a stored document. -/
def ofDocument (doc : Value) : Except Failure Row := do
  let fs : Record ← match doc with
    | .record fs => pure fs
    | v => throw (.noAttribute v.typeName "get")
  let details ← part (fs.get? "details")
  let metadata := details.get? "metadata"
  let stamp ← stampText (fs.get? "createdAt")
  let context ← part (fs.get? "context")
  let metaText : Value := match metadata with
    | some m => if m.truthy then .str (Json.render Json.Style.spaced m.plain)
      else .str notAvailable
    | none => .str notAvailable
  let idValue : Value := match fs.get? "_id" with
    | none | some .null => .null
    | some v => .str v.display
  pure ⟨fun c => match c with
    | .id => idValue
    | .timestamp => stamp
    | .level => orMissing (fs.get? "level")
    | .action => orMissing (fs.get? "action")
    | .message => orMissing (fs.get? "message")
    | .userId => orMissing (fs.get? "userId")
    | .resource => orMissing (fs.get? "resource")
    | .resourceId => orMissing (fs.get? "resourceId")
    | .ip => orMissing (context.get? "ip")
    | .userAgent => orMissing (context.get? "userAgent")
    | .method => orMissing (context.get? "method")
    | .url => orMissing (context.get? "url")
    | .statusCode => orMissing (context.get? "statusCode")
    | .responseTime => orMissing (context.get? "responseTime")
    | .errorMessage => orMissing (details.get? "error")
    | .errorStack => orMissing (details.get? "stackTrace")
    | .metadata => metaText⟩

end Row

end AuditTrail
