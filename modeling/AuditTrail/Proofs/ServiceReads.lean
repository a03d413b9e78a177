import AuditTrail.Proofs.ReadOnlyWork
import AuditTrail.Proofs.Monadic
import AuditTrail.Web.App

/-!
# Properties every report has

The reports are built from reads, gatherings of reads and `bind`; a property of these
(`Service.Closure`) holds of every report, and with the deletion (`Service.SweepClosure`) of
every answer.
-/

namespace AuditTrail

def Work.ReadsOnly : Work → Prop
  | .read job _ => job.method ≠ .insertOne
  | .fanOut jobs _ => ∀ j ∈ jobs, j.method ≠ .insertOne
  | _ => False

theorem Collection.deleteWhere_shrinks {c c' : Collection} {cond : Cond} {n : Nat}
    (h : c.deleteWhere cond = .ok (c', n)) :
    c'.entries.Sublist c.entries ∧ c'.nextId = c.nextId := by
  unfold Collection.deleteWhere at h
  simp only [bind, Except.bind] at h
  split at h
  · cases h
  · rename_i keep hkeep
    cases h
    exact ⟨sublist_of_filterM_eq_ok hkeep, rfl⟩

namespace Service

/-- A property of service operations that holds of `pure`, that `bind` keeps, that reading the
state keeps when what follows depends on the clock and the collection only, and that the
store's reads and gatherings of read tasks have. -/
structure Closure (P : ∀ {α : Type}, StateM Service α → Prop) : Prop where
  pure : ∀ {α : Type} (a : α), P (Pure.pure a : StateM Service α)
  bind : ∀ {α β : Type} {x : StateM Service α} {f : α → StateM Service β},
    P x → (∀ a, P (f a)) → P (x >>= f)
  get_bind : ∀ {α : Type} {f : Service → StateM Service α}, (∀ s, P (f s)) →
    (∀ s s' : Service, s.clock = s'.clock → s.db.coll = s'.db.coll → f s = f s') →
    P ((get : StateM Service Service) >>= f)
  read : ∀ {α : Type} (m : StoreMethod), m ≠ .insertOne →
    ∀ op : Collection → Except Failure α, P (Service.onDb (Db.read m op))
  gather : ∀ works : List Work, (∀ w ∈ works, w.ReadsOnly) → P (Service.onDb (Db.gather works))

/-- A property that the reports have and the store's deletion has too, whatever documents it
deletes. -/
structure SweepClosure (P : ∀ {α : Type}, StateM Service α → Prop) : Prop extends Closure P where
  sweep : ∀ {α : Type} (op : Collection → Collection × Except Failure α),
    (∀ c, (op c).1.entries.Sublist c.entries ∧ (op c).1.nextId = c.nextId) →
    P (Service.onDb (Db.write .deleteMany op))

namespace Closure

variable {P : ∀ {α : Type}, StateM Service α → Prop} (C : Closure P)
include C

theorem now_bind {α : Type} {f : Stamp → StateM Service α} (hf : ∀ t, P (f t)) :
    P (Service.now >>= f) := by
  have hnow : (Service.now >>= f) = ((get : StateM Service Service) >>= fun s => f s.clock) := rfl
  rw [hnow]
  exact C.get_bind (fun s => hf s.clock) fun s s' hc _ => by rw [hc]

theorem query (q : Listing) (excludeSelfAudit : Bool) : P (Service.query q excludeSelfAudit) := by
  unfold Service.query
  refine C.bind (C.gather _ ?_) fun failed => C.get_bind (fun s => ?_) fun s s' _ hc => ?_
  · -- the listing's reads call the finder, the counter, the aggregation and the distinct values
    intro w hw
    simp only [List.mem_cons, List.not_mem_nil, or_false] at hw
    rcases hw with rfl | rfl | rfl
    · intro h
      cases h
    · intro h
      cases h
    · intro j hj h
      simp only [List.mem_cons, List.not_mem_nil, or_false] at hj
      rcases hj with rfl | rfl | rfl <;> cases h
  · dsimp only
    split
    · exact C.pure _
    · split <;> exact C.pure _
  · simp only [hc]

theorem statistics (daysBack : Value) : P (Service.statistics daysBack) := by
  unfold Service.statistics
  refine C.now_bind fun upto => ?_
  split
  · exact C.pure _
  · exact C.bind (C.read _ (by decide) _) fun r => by split <;> exact C.pure _

theorem criticalEvents (hours : Value) : P (Service.criticalEvents hours) := by
  unfold Service.criticalEvents
  refine C.now_bind fun t => ?_
  split
  · exact C.pure _
  · exact C.bind (C.read _ (by decide) _) fun r => by split <;> exact C.pure _

theorem critical (windowHours : Value) : P (Service.critical windowHours) := by
  unfold Service.critical
  split
  · exact C.pure _
  · exact C.bind (C.criticalEvents _) fun r => by split <;> exact C.pure _

theorem health (actor : String) : P (Service.health actor) := by
  unfold Service.health
  refine C.now_bind fun t => ?_
  split
  · exact C.pure _
  · refine C.bind (C.read _ (by decide) _) fun r => ?_
    split
    · exact C.pure _
    · refine C.bind (C.read _ (by decide) _) fun r => ?_
      split
      · exact C.pure _
      · exact C.bind (C.criticalEvents _) fun r => by split <;> exact C.pure _

theorem exportEvents (r : ExportRequest) : P (Service.exportEvents r) := by
  unfold Service.exportEvents
  split
  · refine C.now_bind fun t => ?_
    dsimp only
    exact C.bind (C.read _ (by decide) _) fun res => by split <;> exact C.pure _
  · exact C.pure _

/-! ### Endpoints, which end early on a failure -/

theorem run_bind {α β : Type} {x : Handler α} {f : α → Handler β} (hx : P x.run)
    (hf : ∀ a, P (f a).run) : P (x >>= f).run := by
  rw [ExceptT.run_bind]
  refine C.bind hx fun r => ?_
  cases r with
  | ok a => exact hf a
  | error e => exact C.pure _

theorem check {α : Type} (x : Except Failure α) : P (Handler.check x).run := C.pure _

omit C in
theorem call {α : Type} {x : StateM Service (Except Failure α)} (hx : P x) :
    P (Handler.call x).run := hx

theorem answer (a : Actor) (q : QueryPairs) {e : Endpoint} (he : e ≠ .cleanup) :
    P (Service.answer a q e).run := by
  cases e with
  | listLogs =>
    exact C.run_bind (C.check _) fun l => C.run_bind (Closure.call (C.query l true)) fun p => C.pure _
  | statistics =>
    exact C.run_bind (C.check _) fun d => C.run_bind (Closure.call (C.statistics _)) fun s => C.pure _
  | critical =>
    exact C.run_bind (C.check _) fun d => C.run_bind (Closure.call (C.critical _)) fun c => C.pure _
  | health => exact C.run_bind (Closure.call (C.health _)) fun h => C.pure _
  | exportLogs =>
    exact C.run_bind (C.check _) fun f => C.run_bind (C.check _) fun r =>
      C.run_bind (Closure.call (C.exportEvents r)) fun x => C.pure _
  | cleanup => exact absurd rfl he
  | home => exact C.pure _
  | page p => exact C.pure _
  | description => exact C.pure _

theorem serve_of (req : HttpRequest) (e : Endpoint) (h : ∀ a, P (Service.answer a req.query e).run) :
    P (Service.serve req e) := by
  unfold Service.serve
  split
  · exact C.pure _
  · split
    · exact C.pure _
    · exact C.bind (h _) fun r => C.pure _

theorem respond_of (req : HttpRequest)
    (h : ∀ e, Dispatch.ofRequest req.method req.path = .serve e →
      ∀ a, P (Service.answer a req.query e).run) :
    P (Service.respond req) := by
  unfold Service.respond
  split
  · rename_i e he
    refine C.bind (C.serve_of req e (h e he)) fun ⟨actor, r⟩ => ?_
    dsimp only
    split
    · exact C.pure _
    · split <;> exact C.pure _
  all_goals exact C.pure _

end Closure

namespace SweepClosure

variable {P : ∀ {α : Type}, StateM Service α → Prop} (C : SweepClosure P)
include C

theorem purge (days : Value) : P (Service.purge days) := by
  unfold Service.purge
  split
  · exact C.pure _
  · split
    · exact C.pure _
    · refine C.now_bind fun t => ?_
      split
      · exact C.pure _
      · dsimp only
        refine C.bind (C.sweep _ fun c => ?_) fun r => by split <;> exact C.pure _
        split
        · rename_i c' n hdel
          exact Collection.deleteWhere_shrinks hdel
        · exact ⟨List.Sublist.refl _, rfl⟩

theorem answer_cleanup (a : Actor) (q : QueryPairs) : P (Service.answer a q .cleanup).run := by
  unfold Service.answer
  dsimp only
  have hsweep : ∀ raw : Option String, P (do
      let days ← Handler.check (intParam "ageThresholdDays" raw 0)
      let p ← Handler.call (Service.purge (Value.int days))
      Pure.pure (Response.counted p.toValue p.deleted) : Handler Response).run := fun _ =>
    C.run_bind (C.check _) fun _ => C.run_bind (Closure.call (C.purge _)) fun _ => C.pure _
  split
  · -- a sweep without its threshold is refused before it runs
    exact C.run_bind (C.pure _) fun _ => hsweep _
  · exact hsweep _

theorem respond (req : HttpRequest) : P (Service.respond req) :=
  C.respond_of req fun e _ a =>
    if he : e = .cleanup then he ▸ C.answer_cleanup a _ else C.answer a _ he

end SweepClosure

end Service

end AuditTrail
