import AuditTrail.Value
import AuditTrail.Number.Decimal
import AuditTrail.Time.Stamp
import AuditTrail.Number.Text
import AuditTrail.Text.Printable

/-!
# Values as text

`Value.repr`, the unambiguous form used inside containers, and `Value.display`, the plain form.
-/

namespace AuditTrail

namespace Stamp

def offsetRepr (off : Int) : String :=
  if off = 0 then "datetime.timezone.utc" else "datetime.timezone(" ++ spanRepr off ++ ")"

/-- The constructor form of a stamp. -/
def repr (t : Stamp) : String :=
  let d := t.date
  let parts := [toString d.year, toString d.month, toString d.day, toString t.hour,
    toString t.minute] ++
    (if t.second = 0 ∧ t.micro = 0 then [] else [toString t.second]) ++
    (if t.micro = 0 then [] else [toString t.micro])
  "datetime.datetime(" ++ ", ".intercalate parts ++
    (match t.offset with
     | none => ""
     | some off => ", tzinfo=" ++ offsetRepr off) ++ ")"

end Stamp

namespace Value

def boolText (b : Bool) : String := if b then "True" else "False"

mutual
/-- The unambiguous text of a value. -/
def repr : Value → String
  | .null => "None"
  | .bool b => boolText b
  | .int n => toString n
  | .float x => Float.shortText x
  | .str s => quoteText s
  | .list xs => "[" ++ ", ".intercalate (reprItems xs) ++ "]"
  | .tuple [x] => "(" ++ repr x ++ ",)"
  | .tuple xs => "(" ++ ", ".intercalate (reprItems xs) ++ ")"
  | .record fs => "\x7b" ++ ", ".intercalate (reprFields fs) ++ "\x7d"
  | .stamp t => t.repr
  | .objectId n => "ObjectId(" ++ quoteText (ObjectId.hex n) ++ ")"
  | .decimal d => "Decimal128(" ++ quoteText (Decimal.text d) ++ ")"
  | .member e v => "<" ++ e ++ "." ++ v ++ ": " ++ quoteText v ++ ">"
def reprItems : List Value → List String
  | [] => []
  | x :: xs => repr x :: reprItems xs
def reprFields : List (String × Value) → List String
  | [] => []
  | (k, x) :: fs => (quoteText k ++ ": " ++ repr x) :: reprFields fs
end

/-- The plain text of a value. -/
def display : Value → String
  | .str s => s
  | .stamp t => t.isoWith " "
  | .objectId n => ObjectId.hex n
  | .decimal d => Decimal.text d
  | .member e v => e ++ "." ++ v
  | v => v.repr

end Value

end AuditTrail
