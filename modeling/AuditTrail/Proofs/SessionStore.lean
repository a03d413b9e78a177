import AuditTrail.Proofs.ServiceReads
import AuditTrail.Proofs.WritesInFlight
import AuditTrail.Proofs.Ingestion
import AuditTrail.Service.Recorders

/-!
# The store over a session

Every step of a session is built from what `Service.IngestClosure` collects, so a session from an
empty store keeps it one of stored events (`Session.run_holds`).
-/

namespace AuditTrail

open Collection

namespace Service

/-- A property of the reports and the sweep that draining the store and every write of an event
whose extras keep apart share. -/
structure IngestClosure (P : ∀ {α : Type}, StateM Service α → Prop) : Prop
    extends SweepClosure P where
  store : ∀ e : Event, e.ExtrasApart → P (Service.store e)
  settle : P Service.settle

namespace IngestClosure

variable {P : ∀ {α : Type}, StateM Service α → Prop} (C : IngestClosure P)
include C

theorem forM_store {evs : List Event} (hevs : ∀ e ∈ evs, e.ExtrasApart) :
    P (evs.forM Service.store) := by
  induction evs with
  | nil => exact C.pure _
  | cons e es ih =>
    show P (Service.store e >>= fun _ => es.forM Service.store)
    exact C.bind (C.store e (hevs e List.mem_cons_self))
      fun _ => ih fun e' he' => hevs e' (List.mem_cons_of_mem e he')

theorem record (level action message userId resource resourceId details context : Value) :
    P (Service.record level action message userId resource resourceId details context) := by
  unfold Service.record
  split
  · rename_i e hrec
    exact C.bind (C.store e (Event.receive_extrasApart hrec)) fun _ => C.pure _
  · exact C.pure _

theorem log (e : BusinessEvent) : P (Service.log e) := by
  unfold Service.log
  split
  · exact C.record _ _ _ _ _ _ _ _
  · exact C.pure _

theorem handle (req : HttpRequest) : P (Service.handle req) := by
  unfold Service.handle
  split
  · exact C.pure _
  · refine C.bind (C.respond req) fun ⟨resp, actor, o⟩ => ?_
    exact C.bind (C.forM_store (req.captureEvents_extrasApart actor o)) fun _ => C.pure _

theorem fetch (req : HttpRequest) : P (Service.fetch req) := by
  unfold Service.fetch
  split
  · exact C.pure _
  · refine C.bind C.settle fun _ => C.bind (C.handle _) fun resp => C.bind C.settle fun _ => ?_
    split <;> exact C.pure _

end IngestClosure

/-- The operation keeps the store one of stored events whose writes in flight keep it so. -/
def KeepsEvents {α : Type} (x : StateM Service α) : Prop :=
  ∀ sv : Service, sv.db.Holds OfEvents → (x sv).2.db.Holds OfEvents

namespace KeepsEvents

theorem ingestClosure : IngestClosure KeepsEvents where
  pure _ _ h := h
  bind hx hf sv h := hf _ _ (hx sv h)
  get_bind hf _ sv h := hf sv sv h
  read m _ op sv h := h.read m op
  gather works hw sv h := h.gather fun w hw' => by
    cases w with
    | write => exact (hw _ hw').elim
    | _ => trivial
  sweep op hop sv h := h.write .deleteMany fun c hc => hc.of_deletes (hop c)
  store _ he sv h := h.write .insertOne fun _ hc => hc.insert_event he sv.clock
  settle _ h := h.settleAll

theorem emit (level action message userId resource resourceId details context : Value) :
    KeepsEvents (Service.emit level action message userId resource resourceId details context) := by
  intro sv h
  rcases hrec : Event.receive level action message userId resource resourceId details context with
    f | e
  · rw [emit_of_refused _ _ _ _ _ _ _ _ sv hrec]
    exact h
  · -- the write runs as a task of its own, which keeps the store as an insert does
    rw [emit_of_accepted_eq _ _ _ _ _ _ _ _ sv hrec]
    refine h.gather fun w hw => ?_
    rw [List.mem_singleton] at hw
    subst hw
    exact fun c hc => hc.insert_event (Event.receive_extrasApart hrec) sv.clock

end KeepsEvents

end Service

/-- A step of a session in which documents enter the store only through the ingestion path:
the clock set, a fault planned, an event recorded, emitted or logged, a request over HTTP, or
a report or the sweep run. -/
inductive SessionStep where
  | setClock (t : Stamp)
  | arm (m : StoreMethod) (p : FaultPlan)
  | record (level action message userId resource resourceId details context : Value)
  | emit (level action message userId resource resourceId details context : Value)
  | log (e : BusinessEvent)
  | fetch (req : HttpRequest)
  | query (q : Listing) (excludeSelfAudit : Bool)
  | statistics (daysBack : Value)
  | critical (windowHours : Value)
  | health (actor : String)
  | exportEvents (r : ExportRequest)
  | purge (days : Value)

namespace SessionStep

def apply : SessionStep → Service → Service
  | .setClock t, sv => { sv with clock := t }
  | .arm m p, sv => { sv with db := sv.db.arm m p }
  | .record l a m u r ri d c, sv => (Service.record l a m u r ri d c sv).2
  | .emit l a m u r ri d c, sv => (Service.emit l a m u r ri d c sv).2
  | .log e, sv => (Service.log e sv).2
  | .fetch req, sv => (Service.fetch req sv).2
  | .query q x, sv => (Service.query q x sv).2
  | .statistics n, sv => (Service.statistics n sv).2
  | .critical h, sv => (Service.critical h sv).2
  | .health a, sv => (Service.health a sv).2
  | .exportEvents r, sv => (Service.exportEvents r sv).2
  | .purge n, sv => (Service.purge n sv).2

/-- Every step keeps the store one of stored events whose writes in flight keep it so. -/
theorem keepsEvents (s : SessionStep) {sv : Service} (h : sv.db.Holds OfEvents) :
    (s.apply sv).db.Holds OfEvents := by
  have C := Service.KeepsEvents.ingestClosure
  cases s with
  | setClock t => exact h
  | arm m p => exact ⟨h.coll, h.queue⟩
  | record l a m u r ri d c => exact C.record l a m u r ri d c sv h
  | emit l a m u r ri d c => exact Service.KeepsEvents.emit l a m u r ri d c sv h
  | log e => exact C.log e sv h
  | fetch req => exact C.fetch req sv h
  | query q x => exact C.query q x sv h
  | statistics n => exact C.statistics n sv h
  | critical n => exact C.critical n sv h
  | health a => exact C.health a sv h
  | exportEvents r => exact C.exportEvents r sv h
  | purge n => exact C.purge n sv h

end SessionStep

namespace Session

def run (steps : List SessionStep) (sv : Service) : Service :=
  steps.foldl (fun sv s => s.apply sv) sv

@[simp] theorem run_nil (sv : Service) : run [] sv = sv := rfl

@[simp] theorem run_cons (s : SessionStep) (steps : List SessionStep) (sv : Service) :
    run (s :: steps) sv = run steps (s.apply sv) := rfl

/-- A session keeps the store one of stored events whose writes in flight keep it so. -/
theorem run_holds (steps : List SessionStep) {sv : Service} (h : sv.db.Holds OfEvents) :
    (run steps sv).db.Holds OfEvents := by
  induction steps generalizing sv with
  | nil => exact h
  | cons s steps ih => exact ih (s.keepsEvents h)

theorem start_holds (t : Stamp) : ({ clock := t } : Service).db.Holds OfEvents :=
  ⟨ofEvents_empty, nofun⟩

end Session

end AuditTrail
