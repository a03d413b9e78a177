import AuditTrail.Store.Cond
import AuditTrail.Value.Equality
import AuditTrail.Value.Compare
import AuditTrail.Sorting
import AuditTrail.Request.Select
import AuditTrail.Failure

/-!
# The document collection

Stored documents in insertion order with their ids and the id counter. Values are stored as the
document store keeps them; `insert` refuses names, integers and ids the store does not allow.
-/

namespace AuditTrail

namespace Value

mutual
def stored : Value → Value
  | .stamp t => .stamp t.toStored
  | .list xs => .list (storedItems xs)
  | .tuple xs => .list (storedItems xs)
  | .record fs => .record (storedFields fs)
  | v => v
def storedItems : List Value → List Value
  | [] => []
  | x :: xs => stored x :: storedItems xs
def storedFields : List (String × Value) → List (String × Value)
  | [] => []
  | (k, x) :: fs => (k, stored x) :: storedFields fs
end

end Value

namespace Test

def stored : Test → Test
  | .eq v => .eq v.stored
  | .isIn vs => .isIn (vs.map Value.stored)
  | .atLeast v => .atLeast v.stored
  | .atMost v => .atMost v.stored
  | .below v => .below v.stored
  | .notEq v => .notEq v.stored
  | .contains t => .contains t

end Test

namespace Clause

mutual
def stored : Clause → Clause
  | .field path tests => .field path (tests.map Test.stored)
  | .either cs => .either (storedAll cs)
def storedAll : List Clause → List Clause
  | [] => []
  | c :: cs => stored c :: storedAll cs
end

end Clause

namespace Value

def fitsEightBytes (n : Int) : Bool :=
  decide (-9223372036854775808 ≤ n) && decide (n < 9223372036854775808)

mutual
/-- The first field name holding the null character among the records of a value, reaching
records within records but not the items of lists. -/
def nullNameInRecords? : Value → Option String
  | .record fs => fieldsNullName? fs
  | _ => none
def fieldsNullName? : List (String × Value) → Option String
  | [] => none
  | (k, x) :: fs =>
    if k.contains '\x00' then some k
    else (nullNameInRecords? x).orElse (fun _ => fieldsNullName? fs)
end

/-- What the store's encoder refuses in a value: a text with no UTF-8 form (a field name or a
text value holding a lone surrogate, with the encoder's message), a field name with the null
character, or an integer beyond 8 bytes. -/
inductive EncodeProblem where
  | noUtf8 (message : String)
  | nullName
  | wideInt

mutual
/-- The first thing the store's encoder refuses in a value, at any depth, in order. -/
def encodeProblem? : Value → Option EncodeProblem
  | .int n => if fitsEightBytes n then none else some .wideInt
  | .str s => EncodeProblem.noUtf8 <$> utf8Refusal? s
  | .list xs => itemsEncodeProblem? xs
  | .tuple xs => itemsEncodeProblem? xs
  | .record fs => fieldsEncodeProblem? fs
  | _ => none
def itemsEncodeProblem? : List Value → Option EncodeProblem
  | [] => none
  | x :: xs => (encodeProblem? x).orElse (fun _ => itemsEncodeProblem? xs)
/-- `encodeProblem?` of fields: each name, then its value, field by field. A name is encoded
before it is looked at for the null character. -/
def fieldsEncodeProblem? : List (String × Value) → Option EncodeProblem
  | [] => none
  | (k, x) :: fs =>
    if let some m := utf8Refusal? k then some (.noUtf8 m)
    else if k.contains '\x00' then some .nullName
    else (encodeProblem? x).orElse (fun _ => fieldsEncodeProblem? fs)
end

mutual
/-- The type of the part of an id that cannot be hashed, if any. A list or a decimal cannot be;
a record is hashed by its fields, a list field as the tuple of its items; a tuple by its items. -/
def idProblem? : Value → Option String
  | .list _ => some "list"
  | .decimal _ => some "Decimal128"
  | .record fs => fieldsIdProblem? fs
  | .tuple xs => unhashableItem? xs
  | _ => none
def fieldsIdProblem? : List (String × Value) → Option String
  | [] => none
  | (_, x) :: fs =>
    let here := match x with
      | .list xs => unhashableItem? xs
      | v => idProblem? v
    here.orElse (fun _ => fieldsIdProblem? fs)
end

end Value

/-- The stored documents, in insertion order, each with the id it is filed under, and the
counter that numbers assigned ids. An id is filed as it was given: storing normalizes the
document, not the key it is filed under. -/
structure Collection where
  entries : List (Value × Record) := []
  nextId : Nat := 1

namespace Collection

def docs (c : Collection) : List Record := c.entries.map (·.2)

def size (c : Collection) : Nat := c.entries.length

/-- The object id assigned for counter value `n`. -/
def autoId (n : Nat) : Value := .objectId (n % 16777216)

def unhashableFailure (t : String) : Failure := .typeMismatch ("unhashable type: '" ++ t ++ "'")

def duplicateText : String := "E11000 Duplicate Key Error"

/-- Why the store refuses a document before giving it an id, if it does. In order:

* a field name with the null character, in the document or in a record within it (not within
  a list);
* a top-level field name that starts with `$`;
* what the encoder refuses (`Value.encodeProblem?`), the id first and then the other fields:
  a text with no UTF-8 form, a field name with the null character anywhere, or an integer
  beyond 8 bytes. -/
def refusal? (doc : Record) : Option Failure :=
  match Value.fieldsNullName? doc with
  | some k =>
    some (.invalidDocument ("Field names cannot contain the null character (found: " ++ k ++ ")"))
  | none =>
    match doc.find? (·.1.startsWith "$") with
    | some (k, _) =>
      some (.invalidDocument
        ("Top-level field names cannot start with the \"$\" sign (found: " ++ k ++ ")"))
    | none =>
      let problem := ((doc.get? "_id").bind Value.encodeProblem?).orElse
        (fun _ => Value.fieldsEncodeProblem? (doc.erase "_id"))
      problem.map fun
        | .noUtf8 m => .unencodable m
        | .nullName => .invalidDocument "Invalid document: Key names must not contain the NULL byte"
        | .wideInt => .overflow "MongoDB can only handle up to 8-byte ints"

/-- Stores a document, assigning the next counter value when it has no id (used up even on a
refusal); refuses what `Collection.refusal?` refuses, an unhashable id and a reused one. -/
def insert (c : Collection) (doc : Record) : Collection × Except Failure Value :=
  if let some f := refusal? doc then (c, .error f)
  else
    let (doc, c) := match doc.get? "_id" with
      | some _ => (doc, c)
      | none => (("_id", autoId c.nextId) :: doc, { c with nextId := c.nextId + 1 })
    let key := (doc.get? "_id").getD .null
    match key.idProblem? with
    | some t => (c, .error (unhashableFailure t))
    | none =>
      if c.entries.any (fun e => Value.sameEq e.1 key) then (c, .error (.duplicateKey duplicateText))
      else
        let doc : Record := Value.storedFields doc
        ({ c with entries := c.entries ++ [(key, doc)] }, .ok ((doc.get? "_id").getD .null))

/-- The documents matching a condition, in insertion order; the first document the condition
cannot be decided on stops the selection. -/
def select (c : Collection) (cond : Cond) : Except Failure (List Record) :=
  let cond := Clause.storedAll cond
  c.docs.filterM (fun d => Cond.holds cond (.record d))

def sortValue (d : Record) (path : String) : Nat × Value :=
  match (Value.record d).atPath path with
  | none => (1, .null)
  | some (.list []) => (0, .null)
  | some (.list (x :: _)) => (1, x)
  | some v => (1, v)

def keyLt (k : SortKey) (a b : Record) : Except Failure Bool :=
  let (ra, va) := sortValue a k.path
  let (rb, vb) := sortValue b k.path
  if ra != rb then .ok (decide (ra < rb)) else Value.sortLt va vb

/-- Documents ordered by sort keys: sorted by the last key, then again by each key before
it, each time by the runtime's sort (`Sorting.sortByM`), descending keys by a reversing sort. -/
def order (keys : List SortKey) (docs : List Record) : Except Failure (List Record) :=
  keys.foldrM (fun k acc => Sorting.sortByM (keyLt k) (k.order == .desc) acc) docs

/-- The documents matching a condition, ordered, with `skip` dropped and at most `limit` kept
(no limit when it is 0). -/
def find (c : Collection) (cond : Cond) (keys : List SortKey) (skip limit : Nat) :
    Except Failure (List Record) := do
  let docs := (← order keys (← c.select cond)).drop skip
  pure (if limit = 0 then docs else docs.take limit)

/-- The number of documents matching a condition. -/
def count (c : Collection) (cond : Cond) : Except Failure Nat := List.length <$> c.select cond

/-- Runs of equal items, each as its first item and its length; every item is compared with
the first of the run it may join. -/
def runs {α : Type} (eq : α → α → Bool) (xs : List α) : List (α × Nat) :=
  (xs.foldl (fun acc x => match acc with
    | (k, n) :: rest => if eq k x then (k, n + 1) :: rest else (x, 1) :: acc
    | [] => [(x, 1)]) []).reverse

/-- Sets the count of a key: an equal key keeps its place and takes the new count, and a new
key goes at the end. -/
def setCount (k : Value) (n : Nat) : List (Value × Nat) → List (Value × Nat)
  | [] => [(k, n)]
  | (j, m) :: rest => if Value.sameEq j k then (j, n) :: rest else (j, m) :: setCount k n rest

/-- The number of matching documents per `level` value: runs of equal levels in the store's
order, gathered by level, a later run replacing an earlier equal one. -/
def levelCounts (c : Collection) (cond : Cond) : Except Failure (List (Value × Nat)) := do
  let levels := (← c.select cond).map (fun d => (d.get? "level").getD .null)
  let sorted ← Sorting.sortByM Value.sortLt false levels
  (runs Value.sameEq sorted).foldlM (fun acc (k, n) => match k.unhashable? with
    | some t => .error (unhashableFailure t)
    | none => .ok (setCount k n acc)) []

/-- Adds the items of a value to the distinct values of a field, and the value itself when it
is not a list; the first item that cannot be hashed is refused. A record is kept apart, as the
store does, and is never hashed. -/
def addDistinct (acc : List Value × List Value) (v : Value) :
    Except Failure (List Value × List Value) :=
  let (plain, records) := acc
  let add (xs : List Value) (x : Value) : List Value :=
    if xs.any (Value.sameEq · x) then xs else xs ++ [x]
  match v with
  | .record _ => .ok (plain, add records v)
  | .list xs => (fun p => (p, records)) <$> xs.foldlM (fun ps x => match x.unhashable? with
      | some t => .error (unhashableFailure t)
      | none => .ok (add ps x)) plain
  | v => match v.unhashable? with
    | some t => .error (unhashableFailure t)
    | none => .ok (add plain v, records)

def distinct (c : Collection) (cond : Cond) (path : String) : Except Failure (List Value) := do
  let (plain, records) ← (← c.select cond).foldlM (fun acc d =>
    match (Value.record d).atPath path with
    | none => .ok acc
    | some v => addDistinct acc v) ([], [])
  pure (plain ++ records)

/-- The number of distinct non-null values of a field among the matching documents. -/
def distinctCount (c : Collection) (cond : Cond) (path : String) : Except Failure Nat :=
  (fun vs => (vs.filter (!·.isNull)).length) <$> c.distinct cond path

/-- The least and greatest creation values among the matching documents, by the language's
`<` and `>` (`Value.pyMin`, then `Value.pyMax`); null and missing values are left out. -/
def createdRange (c : Collection) (cond : Cond) :
    Except Failure (Option Value × Option Value) := do
  let vals := (← c.select cond).filterMap (fun d => match d.get? "createdAt" with
    | some .null | none => none
    | some v => some v)
  let lo ← Value.pyMin vals
  let hi ← Value.pyMax vals
  pure (lo, hi)

/-- The key a document is grouped by in the daily counts: the year, month and day of its
creation stamp's UTC calendar day, and its level when it has one. -/
def dayKey (k : Date × Option Value) : Value :=
  .record ([("year", .int k.1.year), ("month", .int k.1.month), ("day", .int k.1.day)] ++
    match k.2 with
    | some v => [("level", v)]
    | none => [])

/-- The number of documents per UTC calendar day and level (`none` when the document has no
level) whose creation stamp lies in `[since, upto]`, as the store groups them: runs of equal
keys (`dayKey`) in the store's order. -/
def dailyLevelCounts (c : Collection) (since upto : Stamp) :
    Except Failure (List ((Date × Option Value) × Nat)) := do
  let cond : Cond := [.field "createdAt" [.atLeast (.stamp since), .atMost (.stamp upto)]]
  let keys := (← c.select cond).filterMap (fun d => match d.get? "createdAt" with
    | some (.stamp t) => some (t.toNaiveUtc.date, d.get? "level")
    | _ => none)
  let sorted ← Sorting.sortByM (fun a b => Value.sortLt (dayKey a) (dayKey b)) false keys
  pure (runs (fun a b => Value.sameEq (dayKey a) (dayKey b)) sorted)

/-- Deletes the documents matching a condition; the collection and how many went. The first
document the condition cannot be decided on stops the deletion before anything is deleted. -/
def deleteWhere (c : Collection) (cond : Cond) : Except Failure (Collection × Nat) := do
  let cond := Clause.storedAll cond
  let keep ← c.entries.filterM (fun e => (!·) <$> Cond.holds cond (.record e.2))
  pure ({ c with entries := keep }, c.entries.length - keep.length)

end Collection

end AuditTrail
