import AuditTrail.Time.Stamp

/-!
# Document values

JSON values with integers and doubles apart, the document store's stamps, object ids and
decimals, tuples and enumeration members; records keep their fields in order, each key once.
-/

namespace AuditTrail

/-- A value that a document field can hold. -/
inductive Value where
  | null
  | bool (b : Bool)
  | int (n : Int)
  | float (x : Float)
  | str (s : String)
  | list (items : List Value)
  | record (fields : List (String × Value))
  | stamp (t : Stamp)
  /-- A twelve-byte object id, read as a big-endian number. -/
  | objectId (n : Nat)
  /-- A decimal number in its canonical text. -/
  | decimal (text : String)
  | tuple (items : List Value)
  /-- A member of one of the service's enumerations, by enumeration name and value. -/
  | member (enum value : String)
  deriving Inhabited

def hexDigit (n : Nat) : Char :=
  if n < 10 then Char.ofNat (48 + n) else Char.ofNat (87 + n)

def hexValue? (c : Char) : Option Nat :=
  if '0' ≤ c ∧ c ≤ '9' then some (c.toNat - 48)
  else if 'a' ≤ c ∧ c ≤ 'f' then some (c.toNat - 87)
  else if 'A' ≤ c ∧ c ≤ 'F' then some (c.toNat - 55)
  else none

namespace ObjectId

def hex (n : Nat) : String :=
  String.ofList ((List.range 24).reverse.map (fun i => hexDigit (n / Nat.pow 16 i % 16)))

def ofHex? (s : String) : Option Nat :=
  if s.length = 24 then
    s.toList.foldl (fun acc c => acc.bind (fun a => (hexValue? c).map (a * 16 + ·))) (some 0)
  else none

end ObjectId

/-- Fields of a record, in insertion order. -/
abbrev Record := List (String × Value)

namespace Record

def get? (r : Record) (k : String) : Option Value :=
  (r.find? (·.1 == k)).map (·.2)

def contains (r : Record) (k : String) : Bool := r.any (·.1 == k)

/-- Sets field `k`: in place when present, at the end otherwise. -/
def set (r : Record) (k : String) (v : Value) : Record :=
  if r.contains k then r.map (fun p => if p.1 == k then (k, v) else p) else r ++ [(k, v)]

def erase (r : Record) (k : String) : Record := r.filter (·.1 != k)

def ofPairs (ps : List (String × Value)) : Record := ps.foldl (fun r p => r.set p.1 p.2) []

@[simp] theorem get?_nil (k : String) : get? [] k = none := rfl

end Record

namespace Value

def fields : Value → Record
  | .record fs => fs
  | _ => []

def field? (v : Value) (k : String) : Option Value :=
  match v with
  | .record fs => Record.get? fs k
  | _ => none

/-- Whether the value counts as true in a condition: empty texts, containers, zero and
null count as false. -/
def truthy : Value → Bool
  | .null => false
  | .bool b => b
  | .int n => n != 0
  | .float x => !(x == 0.0)
  | .str s => !s.isEmpty
  | .list xs => !xs.isEmpty
  | .tuple xs => !xs.isEmpty
  | .record fs => !fs.isEmpty
  | .member _ v => !v.isEmpty
  | _ => true

def typeName : Value → String
  | .null => "NoneType"
  | .bool _ => "bool"
  | .int _ => "int"
  | .float _ => "float"
  | .str _ => "str"
  | .list _ => "list"
  | .record _ => "dict"
  | .stamp _ => "datetime.datetime"
  | .objectId _ => "ObjectId"
  | .decimal _ => "Decimal128"
  | .tuple _ => "tuple"
  | .member e _ => e

def str? : Value → Option String
  | .str s => some s
  | _ => none

def isNull : Value → Bool
  | .null => true
  | _ => false

end Value

end AuditTrail
