import AuditTrail.Store.Collection

/-!
# The store with injected faults and work in flight

Planned faults fire on a method's next calls. Work runs as one queue of steps: the main line runs
until it waits, for a pause or a gathering of tasks, and the steps ahead of it run meanwhile.
-/

namespace AuditTrail

/-- The methods of the store that can be made to fail. -/
inductive StoreMethod where
  | find | countDocuments | aggregate | distinct | insertOne | deleteMany
  deriving DecidableEq, Repr

namespace StoreMethod

def all : List StoreMethod := [.find, .countDocuments, .aggregate, .distinct, .insertOne, .deleteMany]

def name : StoreMethod → String
  | .find => "find"
  | .countDocuments => "count_documents"
  | .aggregate => "aggregate"
  | .distinct => "distinct"
  | .insertOne => "insert_one"
  | .deleteMany => "delete_many"

def ofName? (s : String) : Option StoreMethod := all.find? (·.name == s)

end StoreMethod

/-- Planned failures of a store method. -/
structure FaultPlan where
  kind : FaultKind
  message : String
  remaining : Nat
  deriving DecidableEq, Repr

/-- A read as a task makes it: the method it calls, and the failure its answer raises, if any,
judged on the collection as the call sees it. -/
structure ReadJob where
  method : StoreMethod
  check : Collection → Option Failure

/-- What a task does when it next runs. -/
inductive Work where
  /-- Tries a read, for the second time when `again`. -/
  | read (job : ReadJob) (again : Bool)
  /-- Starts reads as a gathering of its own, waits for it, and then checks the collection. -/
  | fanOut (jobs : List ReadJob) (check : Collection → Option Failure)
  /-- Goes on after gathering `g` ended: fails with it, or checks the collection. -/
  | resume (g : Nat) (check : Collection → Option Failure)
  /-- Writes once with a store method; a failure is swallowed. -/
  | write (method : StoreMethod) (op : Collection → Collection)

/-- Who waits for a gathering: the main line, or a task that then checks the collection and
belongs to a gathering `parent` of its own. -/
inductive Waiter where
  | main
  | task (check : Collection → Option Failure) (parent : Option Nat)

/-- A gathering of tasks: how many members it has, how many have ended, how it ended (`true`
when it failed), and who waits for it. -/
structure Gathering where
  size : Nat
  ended : Nat := 0
  outcome : Option Bool := none
  waiter : Waiter

/-- A step in the queue. -/
inductive Entry where
  /-- Runs a task; when the task ends, gathering `parent` learns of it. -/
  | step (work : Work) (parent : Option Nat)
  /-- Gathering `g` learns that a member ended, failing or not. -/
  | settle (g : Nat) (failed : Bool)
  /-- The main line goes on. -/
  | resumeMain

def Entry.weight : Entry → Nat
  | .step (.fanOut jobs _) _ => 8 * (jobs.length + 2)
  | _ => 8

/-- The collection, the planned faults, the queue of steps, and the gatherings opened so far
(numbered in order). -/
structure Db where
  coll : Collection := {}
  plans : List (StoreMethod × FaultPlan) := []
  queue : List Entry := []
  gatherings : Array Gathering := #[]

namespace Db

def arm (db : Db) (m : StoreMethod) (p : FaultPlan) : Db :=
  { db with plans := (db.plans.filter (·.1 != m)) ++ [(m, p)] }

/-- One call of a store method: a planned fault fires and is used up, or the call goes
through. -/
def attempt (db : Db) (m : StoreMethod) : Db × Option Failure :=
  match db.plans.find? (·.1 == m) with
  | some (_, p) =>
    if p.remaining = 0 then (db, none)
    else ({ db with plans := db.plans.map (fun q =>
        if q.1 == m then (m, { p with remaining := p.remaining - 1 }) else q) },
      some (.store p.kind p.message))
  | none => (db, none)

/-- Calls a store method that writes the collection; the method leaves the collection as it
leaves it, whether it succeeds or not. -/
def write {α : Type} (m : StoreMethod) (op : Collection → Collection × Except Failure α) :
    StateM Db (Except Failure α) := fun db =>
  match db.attempt m with
  | (db, some f) => (.error f, db)
  | (db, none) =>
    let (c, r) := op db.coll
    (r, { db with coll := c })

def call {α : Type} (m : StoreMethod) (op : Collection → Except Failure α) :
    StateM Db (Except Failure α) := fun db =>
  match db.attempt m with
  | (db, some f) => (.error f, db)
  | (db, none) => (op db.coll, db)

/-- Whether a failure is worth a second try. -/
def transient : Failure → Bool
  | .store k _ => k.isTransient
  | _ => false


def totalWeight : List Entry → Nat
  | [] => 0
  | e :: es => e.weight + totalWeight es

def fuel (db : Db) : Nat := totalWeight db.queue + 1

def enqueue (db : Db) (e : Entry) : Db := { db with queue := db.queue ++ [e] }

def finish (db : Db) (parent : Option Nat) (failed : Bool) : Db :=
  match parent with
  | some g => db.enqueue (.settle g failed)
  | none => db

/-- Opens a gathering of tasks for a waiter, their steps at the back of the queue; the
gathering's number. -/
def openGathering (db : Db) (works : List Work) (waiter : Waiter) : Db × Nat :=
  let g := db.gatherings.size
  let db := { db with gatherings := db.gatherings.push { size := works.length, waiter } }
  (works.foldl (fun d w => d.enqueue (.step w (some g))) db, g)

def wake (db : Db) (g : Nat) : Waiter → Db
  | .main => db.enqueue .resumeMain
  | .task check parent => db.enqueue (.step (.resume g check) parent)

/-- Gathering `g` learns that a member ended. It ends failed at its first failed member, and
well when its last member ends well; its waiter is then woken. A member that ends after the
gathering ended changes nothing but the count. -/
def settle (db : Db) (g : Nat) (failed : Bool) : Db :=
  match db.gatherings[g]? with
  | none => db
  | some x =>
    let x := { x with ended := x.ended + 1 }
    let ending : Option Bool :=
      if x.outcome.isSome then none
      else if failed then some true
      else if x.ended == x.size then some false
      else none
    match ending with
    | none => { db with gatherings := db.gatherings.setIfInBounds g x }
    | some f =>
      let db := { db with gatherings := db.gatherings.setIfInBounds g { x with outcome := some f } }
      db.wake g x.waiter

def failedGathering (db : Db) (g : Nat) : Bool :=
  match db.gatherings[g]? with
  | some x => x.outcome == some true
  | none => false

/-- Runs one step of a task that belongs to gathering `parent`. -/
def runWork (db : Db) (parent : Option Nat) : Work → Db
  | .read job again =>
    match db.attempt job.method with
    | (db, some f) =>
      if transient f && !again then db.enqueue (.step (.read job true) parent)
      else db.finish parent true
    | (db, none) => db.finish parent (job.check db.coll).isSome
  | .fanOut jobs check =>
    (db.openGathering (jobs.map (Work.read · false)) (.task check parent)).1
  | .resume g check => db.finish parent (db.failedGathering g || (check db.coll).isSome)
  | .write m op =>
    match db.attempt m with
    | (db, some _) => db.finish parent false
    | (db, none) => { db with coll := op db.coll }.finish parent false

/-- Runs the step at the front of the queue; `none` when it is the main line's turn or the
queue is empty. -/
def runFront (db : Db) : Option Db :=
  match db.queue with
  | [] => none
  | .resumeMain :: _ => none
  | .settle g failed :: rest => some ({ db with queue := rest }.settle g failed)
  | .step w parent :: rest => some ({ db with queue := rest }.runWork parent w)

/-- Runs the queue until the main line's turn comes (taking that turn from the queue) or the
queue is empty, at most `fuel` steps. -/
def runUntilMain : Nat → Db → Db
  | 0, db => db
  | fuel + 1, db =>
    match runFront db with
    | some db => runUntilMain fuel db
    | none => { db with queue := db.queue.drop 1 }

/-- The main line gives way once: every step ahead of it in the queue runs. -/
def pause (db : Db) : Db :=
  let db := db.enqueue .resumeMain
  runUntilMain db.fuel db

def runAll : Nat → Db → Db
  | 0, db => db
  | fuel + 1, db =>
    match runFront db with
    | some db => runAll fuel db
    | none => match db.queue with
      | [] => db
      | _ :: rest => runAll fuel { db with queue := rest }

/-- A read by the main line, tried once more after a transient failure, giving way in between. -/
def read {α : Type} (m : StoreMethod) (op : Collection → Except Failure α) :
    StateM Db (Except Failure α) := do
  match ← call m op with
  | .error f => if transient f then do modify pause; call m op else pure (.error f)
  | r => pure r

/-- Lets all work in flight finish. -/
def settleAll (db : Db) : Db := runAll db.fuel db

/-- Starts tasks as a gathering and waits for it; whether it failed. Members still running when
it fails stay in the queue. -/
def gather (works : List Work) : StateM Db Bool := fun db =>
  let (db, g) := db.openGathering works .main
  let db := runUntilMain db.fuel db
  (db.failedGathering g, db)

end Db

end AuditTrail
