import AuditTrail.Value
import AuditTrail.Time.Iso
import AuditTrail.Number.Decimal
import AuditTrail.Value.Display
import AuditTrail.Failure

/-!
# Tagged values

One-field records such as `{"$date": iso}` stand for the store's richer scalars in plain JSON;
`Value.untag` reads them back and `Value.tag` writes them.
-/

namespace AuditTrail

namespace Value

def untagStamp : Value → Except Failure Value
  | .str s => match Stamp.ofIso s with
    | .ok t => .ok (.stamp t)
    | .error e => .error (.outOfDomain (e.message s))
  | _ => .error (.typeMismatch "fromisoformat: argument must be str")

def untagObjectId : Value → Except Failure Value
  | .str s => match ObjectId.ofHex? s with
    | some n => .ok (.objectId n)
    | none => .error (.invalidId s)
  | v => .error (.typeMismatch
      ("id must be an instance of (str, bytes, ObjectId), not <class '" ++ v.typeName ++ "'>"))

def untagDecimal : Value → Except Failure Value
  | .str s => match Decimal.ofText s with
    | .ok d => .ok (.decimal d)
    | .error (.signal g) => .error (.decimalSignal g)
    | .error .nanPayload => .error (.outOfDomain "NaN with debug payload is not supported")
  | .list xs =>
    if xs.length = 2 then .ok (.record [("$decimal", .list xs)])
    else .error (.outOfDomain
      "Invalid size for creation of Decimal128 from list or tuple. Must have exactly 2 elements.")
  | v => .error (.typeMismatch ("Cannot convert " ++ v.repr ++ " to Decimal128"))

/-- The tuple of a `$tuple` tag whose content is not a list: a text's characters or a record's
keys, each a text. -/
def tupleOfItems : Value → Except Failure Value
  | .str s => .ok (.tuple (s.toList.map (fun c => .str c.toString)))
  | .record fs => .ok (.tuple (fs.map (fun f => .str f.1)))
  | v => .error (.typeMismatch ("'" ++ v.typeName ++ "' object is not iterable"))

mutual
/-- Replaces tag records by the values they stand for, at any depth; a tag whose content does
not stand for a value fails. -/
def untag : Value → Except Failure Value
  | .list xs => .list <$> untagItems xs
  | .record [("$date", v)] => untagStamp v
  | .record [("$oid", v)] => untagObjectId v
  | .record [("$decimal", v)] => untagDecimal v
  | .record [("$tuple", .list xs)] => .tuple <$> untagItems xs
  | .record [("$tuple", v)] => tupleOfItems v
  | .record [("$enum", .list [.str e, .str v])] => .ok (.member e v)
  | .record fs => .record <$> untagFields fs
  | v => .ok v
def untagItems : List Value → Except Failure (List Value)
  | [] => .ok []
  | x :: xs => do
    let y ← untag x
    let ys ← untagItems xs
    pure (y :: ys)
def untagFields : List (String × Value) → Except Failure (List (String × Value))
  | [] => .ok []
  | (k, x) :: fs => do
    let y ← untag x
    let gs ← untagFields fs
    pure ((k, y) :: gs)
end

mutual
/-- Writes stamps, object ids and decimals as tag records, at any depth. -/
def tag : Value → Value
  | .list xs => .list (tagItems xs)
  | .tuple xs => .list (tagItems xs)
  | .record fs => .record (tagFields fs)
  | .stamp t => .record [("$date", .str t.iso)]
  | .objectId n => .record [("$oid", .str (ObjectId.hex n))]
  | .decimal d => .record [("$decimal", .str (Decimal.text d))]
  | .member _ v => .str v
  | v => v
def tagItems : List Value → List Value
  | [] => []
  | x :: xs => tag x :: tagItems xs
def tagFields : List (String × Value) → List (String × Value)
  | [] => []
  | (k, x) :: fs => (k, tag x) :: tagFields fs
end

end Value

end AuditTrail
