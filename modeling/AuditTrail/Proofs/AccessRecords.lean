import AuditTrail.Proofs.ReadOnlyWork
import AuditTrail.Proofs.Monadic
import AuditTrail.Web.App

/-!
# What a request leaves in the store

On a steady store every endpoint reads, except the sweep, which deletes (`Service.Keeps`), and a
request then inserts its access records in order (`handle_access_records`).
-/

namespace AuditTrail

namespace Collection

def Deletes (c c' : Collection) : Prop := c'.entries.Sublist c.entries ∧ c'.nextId = c.nextId

theorem deletes_of_deleteWhere {c c' : Collection} {cond : Cond} {n : Nat}
    (h : c.deleteWhere cond = .ok (c', n)) : c.Deletes c' := by
  unfold deleteWhere at h
  simp only [bind, Except.bind] at h
  split at h
  · cases h
  · rename_i keep hkeep
    cases h
    exact ⟨sublist_of_filterM_eq_ok hkeep, rfl⟩

/-- How an operation may change the collection: a reflexive and transitive relation. -/
structure Change where
  rel : Collection → Collection → Prop
  refl : ∀ c, rel c c
  trans : ∀ {a b c}, rel a b → rel b c → rel a c

def Change.none : Change := ⟨Eq, fun _ => rfl, Eq.trans⟩

def Change.deletes : Change :=
  ⟨Deletes, fun _ => ⟨List.Sublist.refl _, rfl⟩, fun h₁ h₂ => ⟨h₂.1.trans h₁.1, h₂.2.trans h₁.2⟩⟩

end Collection

namespace Service

open Collection

/-- A service operation that keeps a steady store steady and the clock as it is, and changes
the collection at most as `R` allows. -/
def Keeps (R : Change) {α : Type} (x : StateM Service α) : Prop :=
  ∀ sv : Service, sv.db.Steady →
    (x sv).2.db.Steady ∧ R.rel sv.db.coll (x sv).2.db.coll ∧ (x sv).2.clock = sv.clock

namespace Keeps

variable {R : Change} {α β : Type}

theorem pure (a : α) : Keeps R (Pure.pure a : StateM Service α) :=
  fun _ h => ⟨h, R.refl _, rfl⟩

theorem bind {x : StateM Service α} {f : α → StateM Service β} (hx : Keeps R x)
    (hf : ∀ a, Keeps R (f a)) : Keeps R (x >>= f) := fun sv h => by
  obtain ⟨hs, hc, ht⟩ := hx sv h
  obtain ⟨hs', hc', ht'⟩ := hf (x sv).1 (x sv).2 hs
  exact ⟨hs', R.trans hc hc', ht'.trans ht⟩

theorem mono {S : Change} (hRS : ∀ a b, R.rel a b → S.rel a b) {x : StateM Service α}
    (hx : Keeps R x) : Keeps S x := fun sv h =>
  (hx sv h).imp_right fun ⟨hc, ht⟩ => ⟨hRS _ _ hc, ht⟩

theorem get : Keeps R (MonadState.get : StateM Service Service) :=
  fun _ h => ⟨h, R.refl _, rfl⟩

theorem onDb {x : StateM Db α} (hx : ∀ db : Db, db.Steady → (x db).2.Steady ∧ (x db).2.coll = db.coll) :
    Keeps R (onDb x) := fun sv h => by
  obtain ⟨hs, hc⟩ := hx sv.db h
  exact ⟨hs, hc ▸ R.refl _, rfl⟩

theorem read (m : StoreMethod) (op : Collection → Except Failure α) :
    Keeps R (Service.onDb (Db.read m op)) :=
  onDb fun _ h => h.read m op

theorem gather {works : List Work} (hw : ∀ w ∈ works, w.WritesNothing) :
    Keeps R (Service.onDb (Db.gather works)) :=
  onDb fun _ h => h.gather hw

theorem write (m : StoreMethod) {op : Collection → Collection × Except Failure α}
    (hop : ∀ c, R.rel c (op c).1) : Keeps R (Service.onDb (Db.write m op)) := fun sv h => by
  obtain ⟨hs, hc⟩ := h.write m op
  refine ⟨hs, ?_, rfl⟩
  rcases hc with hc | hc
  · exact hc ▸ R.refl _
  · exact hc ▸ hop _

theorem now : Keeps R Service.now := bind get fun _ => pure _

theorem query (q : Listing) (excludeSelfAudit : Bool) :
    Keeps R (Service.query q excludeSelfAudit) := by
  unfold Service.query
  refine bind (gather ?_) fun failed => bind get fun s => ?_
  · intro w hw
    simp only [List.mem_cons, List.not_mem_nil, or_false] at hw
    rcases hw with rfl | rfl | rfl <;> trivial
  · dsimp only
    split
    · exact pure _
    · split <;> exact pure _

theorem statistics (daysBack : Value) : Keeps R (Service.statistics daysBack) := by
  unfold Service.statistics
  refine bind now fun upto => ?_
  split
  · exact pure _
  · exact bind (read _ _) fun r => by split <;> exact pure _

theorem criticalEvents (hours : Value) : Keeps R (Service.criticalEvents hours) := by
  unfold Service.criticalEvents
  refine bind now fun t => ?_
  split
  · exact pure _
  · exact bind (read _ _) fun r => by split <;> exact pure _

theorem critical (windowHours : Value) : Keeps R (Service.critical windowHours) := by
  unfold Service.critical
  split
  · exact pure _
  · exact bind (criticalEvents _) fun r => by split <;> exact pure _

theorem health (actor : String) : Keeps R (Service.health actor) := by
  unfold Service.health
  refine bind now fun t => ?_
  split
  · exact pure _
  · refine bind (read _ _) fun r => ?_
    split
    · exact pure _
    · refine bind (read _ _) fun r => ?_
      split
      · exact pure _
      · exact bind (criticalEvents _) fun r => by split <;> exact pure _

theorem exportEvents (r : ExportRequest) : Keeps R (Service.exportEvents r) := by
  unfold Service.exportEvents
  split
  · refine bind now fun t => ?_
    dsimp only
    exact bind (read _ _) fun res => by split <;> exact pure _
  · exact pure _

end Keeps

theorem Keeps.purge (days : Value) : Keeps .deletes (Service.purge days) := by
  unfold Service.purge
  split
  · exact Keeps.pure _
  · split
    · exact Keeps.pure _
    · refine Keeps.bind Keeps.now fun t => ?_
      split
      · exact Keeps.pure _
      · dsimp only
        refine Keeps.bind (Keeps.write _ fun c => ?_) fun r => by split <;> exact Keeps.pure _
        -- a deletion that cannot be decided deletes nothing
        split
        · rename_i c' n hdel
          exact deletes_of_deleteWhere hdel
        · exact Change.deletes.refl c

namespace Keeps

variable {R : Change} {α β : Type}

/-! ### Endpoints, which end early on a failure -/

theorem run_bind {x : Handler α} {f : α → Handler β} (hx : Keeps R x.run)
    (hf : ∀ a, Keeps R (f a).run) : Keeps R (x >>= f).run := by
  rw [ExceptT.run_bind]
  refine bind hx fun r => ?_
  cases r with
  | ok a => exact hf a
  | error e => exact pure _

theorem run_pure (a : α) : Keeps R (Pure.pure a : Handler α).run := pure _

theorem check (x : Except Failure α) : Keeps R (Handler.check x).run := pure _

theorem call {x : StateM Service (Except Failure α)} (hx : Keeps R x) :
    Keeps R (Handler.call x).run := hx

theorem answer (a : Actor) (q : QueryPairs) {e : Endpoint} (he : e ≠ .cleanup) :
    Keeps R (Service.answer a q e).run := by
  cases e with
  | listLogs =>
    exact run_bind (check _) fun l => run_bind (query l true) fun p => run_pure _
  | statistics =>
    exact run_bind (check _) fun d => run_bind (statistics _) fun s => run_pure _
  | critical =>
    exact run_bind (check _) fun d => run_bind (critical _) fun c => run_pure _
  | health => exact run_bind (health _) fun h => run_pure _
  | exportLogs =>
    exact run_bind (check _) fun f => run_bind (check _) fun r =>
      run_bind (exportEvents r) fun x => run_pure _
  | cleanup => exact absurd rfl he
  | home => exact run_pure _
  | page p => exact run_pure _
  | description => exact run_pure _

end Keeps

theorem Keeps.answer_cleanup (a : Actor) (q : QueryPairs) :
    Keeps .deletes (Service.answer a q .cleanup).run := by
  unfold Service.answer
  dsimp only
  have hsweep : ∀ raw : Option String, Keeps .deletes (do
      let days ← Handler.check (intParam "ageThresholdDays" raw 0)
      let p ← Handler.call (Service.purge (Value.int days))
      Pure.pure (Response.counted p.toValue p.deleted) : Handler Response).run := fun _ =>
    Keeps.run_bind (Keeps.check _) fun _ =>
      Keeps.run_bind (Keeps.call (Keeps.purge _)) fun _ => Keeps.run_pure _
  split
  · -- a sweep without its threshold is refused before it runs
    exact Keeps.run_bind (Keeps.pure _) fun _ => hsweep _
  · exact hsweep _

end Service

end AuditTrail
