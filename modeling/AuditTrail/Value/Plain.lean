import AuditTrail.Value
import AuditTrail.Number.Decimal
import AuditTrail.Time.Stamp

/-!
# Plain values

`Value.plain` makes a payload plain JSON of the same shape; `Value.jsonSafe` also turns a NaN or
infinite double into null.
-/

namespace AuditTrail

namespace Value

mutual
/-- The value as plain JSON. -/
def plain : Value → Value
  | .list xs => .list (plainItems xs)
  | .tuple xs => .list (plainItems xs)
  | .record fs => .record (plainFields fs)
  | .objectId n => .str (ObjectId.hex n)
  | .decimal d => .str (Decimal.text d)
  | .stamp t => .str t.iso
  | .member _ v => .str v
  | v => v
def plainItems : List Value → List Value
  | [] => []
  | x :: xs => plain x :: plainItems xs
def plainFields : List (String × Value) → List (String × Value)
  | [] => []
  | (k, x) :: fs => (k, plain x) :: plainFields fs
end

mutual
def jsonSafe : Value → Value
  | .float x => if x.isNaN || x.isInf then .null else .float x
  | .list xs => .list (jsonSafeItems xs)
  | .record fs => .record (jsonSafeFields fs)
  | v => v
def jsonSafeItems : List Value → List Value
  | [] => []
  | x :: xs => jsonSafe x :: jsonSafeItems xs
def jsonSafeFields : List (String × Value) → List (String × Value)
  | [] => []
  | (k, x) :: fs => (k, jsonSafe x) :: jsonSafeFields fs
end

end Value

end AuditTrail
