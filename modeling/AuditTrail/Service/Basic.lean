import AuditTrail.Store.Db
import AuditTrail.Event.Build
import AuditTrail.Event.View

/-!
# The running service

The store and the clock, in `StateM Service`. `Service.store` swallows a store failure;
`Service.emit` hands the write to a task and waits; `Service.insertDoc` drops `_id` and `id`.
-/

namespace AuditTrail

/-- The store and the clock of a running service. -/
structure Service where
  db : Db := {}
  clock : Stamp

namespace Service

def onDb {α : Type} (x : StateM Db α) : StateM Service α := fun s =>
  let (a, db) := x s.db
  (a, { s with db })

def stored (s : Service) : Nat := s.db.coll.size

def insertRaw (doc : Record) : StateM Db (Except Failure Value) :=
  Db.write .insertOne (fun c => c.insert doc)

/-- The repository insert: the document without `_id` and `id`; the new id. -/
def insertDoc (doc : Record) : StateM Service (Except Failure Value) :=
  onDb (insertRaw ((doc.erase "_id").erase "id"))

/-- Writes an accepted event, stamped with the clock; a store failure is swallowed. -/
def store (e : Event) : StateM Service Unit := do
  let s ← get
  let _ ← insertDoc (e.toDocument s.clock)
  pure ()

/-- Accepts and writes an event; only a refused event fails. -/
def record (level action message userId resource resourceId details context : Value) :
    StateM Service (Except Failure Unit) := do
  match Event.receive level action message userId resource resourceId details context with
  | .ok e => do store e; pure (.ok ())
  | .error f => pure (.error f)

/-- Accepts an event and hands its write to a task of its own, then waits for every such write
in flight; the number of writes in flight when the event was handed over. A store failure of
the write is swallowed; only a refused event fails. -/
def emit (level action message userId resource resourceId details context : Value) :
    StateM Service (Except Failure Nat) := do
  match Event.receive level action message userId resource resourceId details context with
  | .ok e => do
    let s ← get
    let doc := ((e.toDocument s.clock).erase "_id").erase "id"
    let _ ← onDb (Db.gather [.write .insertOne (fun c => (c.insert doc).1)])
    pure (.ok 1)
  | .error f => pure (.error f)

def settle : StateM Service Unit := modify (fun s => { s with db := s.db.settleAll })

/-- Stores raw documents as they are, bypassing faults, until the first unreadable or refused
one; the ids of the stored documents. -/
def seed (docs : List (Except Failure Record)) : StateM Service (Except Failure (List Value)) :=
    fun s =>
  let step (acc : Except Failure (List Value) × Collection) (d : Except Failure Record) :=
    match acc, d with
    | (.error f, c), _ => (.error f, c)
    | (.ok _, c), .error f => (.error f, c)
    | (.ok ids, c), .ok d => match c.insert d with
      | (c', .ok id) => (.ok (ids ++ [id]), c')
      | (c', .error f) => (.error f, c')
  let (r, c) := docs.foldl step (.ok [], s.db.coll)
  (r, { s with db := { s.db with coll := c } })

end Service

def newestFirst : List SortKey := [⟨"createdAt", .desc⟩, ⟨"_id", .desc⟩]

def indexTable : List (String × List (String × Int)) :=
  [("_id_", [("_id", 1)]), ("action_1", [("action", 1)]), ("createdAt_-1", [("createdAt", -1)]),
   ("level_1", [("level", 1)]), ("level_1_createdAt_-1", [("level", 1), ("createdAt", -1)]),
   ("resource_1_resourceId_1", [("resource", 1), ("resourceId", 1)]), ("userId_1", [("userId", 1)])]

namespace Repo

def count (cond : Cond) : StateM Db (Except Failure Nat) :=
  Db.read .countDocuments (fun c => c.count cond)

def countByLevel (cond : Cond) : StateM Db (Except Failure (List (Value × Nat))) :=
  Db.read .aggregate (fun c => c.levelCounts cond)

def distinctUsers (cond : Cond) : StateM Db (Except Failure Nat) :=
  Db.read .distinct (fun c => c.distinctCount cond "userId")

def dateRange (cond : Cond) : StateM Db (Except Failure (Option Value × Option Value)) :=
  Db.read .aggregate (fun c => c.createdRange cond)

/-- The newest matching events, at most `limit` of them (all when it is 0). -/
def findRecent (cond : Cond) (limit : Nat) : StateM Db (Except Failure (List Record)) :=
  Db.read .find (fun c => c.find cond newestFirst 0 limit)

end Repo

end AuditTrail
