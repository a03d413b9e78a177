import AuditTrail.Json.Read
import AuditTrail.Text.Blank
import AuditTrail.Failure

/-!
# Settings

A list setting is a JSON list, when it starts with a bracket, or comma-separated trimmed
entries.
-/

namespace AuditTrail

namespace Settings

/-- How deeply the lists and records of a JSON list setting may nest: what is left of the
runtime's budget of 1000 nested calls under the calls that read the setting. -/
def nestingLimit : Nat := 990

def readFailure (value : String) : Json.ReadError → Failure
  | .tooDeep k => .tooDeep ((Json.ReadError.tooDeep k).describe value)
  | .tooManyDigits n => .outOfDomain ((Json.ReadError.tooManyDigits n).describe value)
  | e => .badJson (e.describe value)

def parseList (value : String) : Except Failure Value :=
  if value.isEmpty then .ok (.list [])
  else if (Blank.stripStart value).startsWith "[" then
    (Json.parseWithin nestingLimit value).mapError (readFailure value)
  else .ok (.list ((((value.splitOn ",").map Blank.strip).filter (· ≠ "")).map .str))

end Settings

end AuditTrail
