import AuditTrail.Proofs.AccessRecords

/-!
# Responses do not meet insert faults

Answering a request never calls the insert, so forgetting the insert faults commutes with it
(`Service.Blind`) and an armed insert fault never changes a response.
-/

namespace AuditTrail

def Work.AvoidsInserts : Work → Prop
  | .read job _ => job.method ≠ .insertOne
  | .fanOut jobs _ => ∀ j ∈ jobs, j.method ≠ .insertOne
  | .resume _ _ => True
  | .write m _ => m ≠ .insertOne

def Entry.AvoidsInserts : Entry → Prop
  | .step w _ => w.AvoidsInserts
  | _ => True

namespace Db

def forgetInserts (db : Db) : Db := { db with plans := db.plans.filter (·.1 != .insertOne) }

def AvoidsInserts (db : Db) : Prop := ∀ e ∈ db.queue, e.AvoidsInserts

/-- A step of the store that forgetting the insert faults commutes with, and that starts no
work calling the insert. -/
def Blind (f : Db → Db) : Prop :=
  ∀ db : Db, db.AvoidsInserts → f db.forgetInserts = (f db).forgetInserts ∧ (f db).AvoidsInserts

def BlindM {α : Type} (x : StateM Db α) : Prop :=
  ∀ db : Db, db.AvoidsInserts →
    x db.forgetInserts = ((x db).1, (x db).2.forgetInserts) ∧ (x db).2.AvoidsInserts

variable {db : Db} {m : StoreMethod}

/-! ### Calls of other methods -/

theorem find?_forgetInserts (hm : m ≠ .insertOne) :
    db.forgetInserts.plans.find? (·.1 == m) = db.plans.find? (·.1 == m) := by
  unfold forgetInserts
  rw [List.find?_filter]
  congr 1
  funext q
  by_cases hq : q.1 = m
  · simp [hq, hm]
  · simp [hq]

theorem attempt_forgetInserts (hm : m ≠ .insertOne) :
    db.forgetInserts.attempt m = ((db.attempt m).1.forgetInserts, (db.attempt m).2) := by
  unfold attempt
  rw [find?_forgetInserts hm]
  cases hf : db.plans.find? (·.1 == m) with
  | none => rfl
  | some q =>
    obtain ⟨m', p⟩ := q
    dsimp only
    split
    · rfl
    · -- spending keeps every key, so it commutes with dropping the insert plans
      have hkeys : ((fun q : StoreMethod × FaultPlan => q.1 != .insertOne) ∘
          fun q : StoreMethod × FaultPlan =>
            if q.1 == m then (m, { p with remaining := p.remaining - 1 }) else q) =
          (fun q : StoreMethod × FaultPlan => q.1 != .insertOne) := by
        funext q
        by_cases hq : q.1 = m <;> simp [hq]
      simp only [forgetInserts, List.filter_map, hkeys]

theorem AvoidsInserts.attempt (h : db.AvoidsInserts) (m : StoreMethod) :
    (db.attempt m).1.AvoidsInserts := by
  obtain ⟨plans, hatt⟩ := attempt_fst db m
  rw [hatt]
  exact h

theorem AvoidsInserts.withQueue (h : db.AvoidsInserts) {q : List Entry}
    (hq : ∀ e ∈ q, e ∈ db.queue) : AvoidsInserts { db with queue := q } :=
  fun e he => h e (hq e he)

theorem AvoidsInserts.enqueue (h : db.AvoidsInserts) {e : Entry} (he : e.AvoidsInserts) :
    (db.enqueue e).AvoidsInserts := by
  intro e' he'
  rcases List.mem_append.1 he' with he' | he'
  · exact h e' he'
  · rw [List.mem_singleton.1 he']
    exact he

/-! ### Steps of the scheduler -/

theorem enqueue_blind (e : Entry) (he : e.AvoidsInserts) : Blind (·.enqueue e) :=
  fun _ h => ⟨rfl, h.enqueue he⟩

theorem finish_blind (parent : Option Nat) (failed : Bool) : Blind (·.finish parent failed) := by
  cases parent with
  | none => exact fun _ h => ⟨rfl, h⟩
  | some g => exact enqueue_blind (.settle g failed) trivial

theorem settle_blind (g : Nat) (failed : Bool) : Blind (·.settle g failed) := by
  intro db h
  dsimp only
  unfold Db.settle
  rw [show db.forgetInserts.gatherings = db.gatherings from rfl]
  split
  · exact ⟨rfl, h⟩
  · dsimp only
    split
    · exact ⟨rfl, h⟩
    · unfold Db.wake
      split
      · refine ⟨rfl, h.enqueue ?_⟩
        trivial
      · refine ⟨rfl, h.enqueue ?_⟩
        trivial

theorem openGathering_blind {works : List Work} (hw : ∀ w ∈ works, w.AvoidsInserts)
    (waiter : Waiter) : Blind (·.openGathering works waiter |>.1) := by
  intro db h
  dsimp only
  rw [openGathering_eq, openGathering_eq]
  refine ⟨rfl, fun e he => ?_⟩
  rcases List.mem_append.1 he with he | he
  · exact h e he
  · obtain ⟨w, hw', rfl⟩ := List.mem_map.1 he
    exact hw w hw'

theorem runWork_blind (parent : Option Nat) {w : Work} (hw : w.AvoidsInserts) :
    Blind (·.runWork parent w) := by
  intro db h
  dsimp only
  unfold Db.runWork
  cases w with
  | read job again =>
    have hw : job.method ≠ .insertOne := hw
    dsimp only
    rw [attempt_forgetInserts hw]
    have hs := h.attempt job.method
    rcases hA : db.attempt job.method with ⟨db', f⟩
    rw [hA] at hs
    cases f with
    | some f =>
      dsimp only
      split
      · exact enqueue_blind (.step (.read job true) parent) hw db' hs
      · exact finish_blind parent true db' hs
    | none => exact finish_blind parent _ db' hs
  | fanOut jobs check =>
    refine openGathering_blind (fun w hw' => ?_) _ db h
    obtain ⟨j, hj, rfl⟩ := List.mem_map.1 hw'
    exact hw j hj
  | resume g check => exact finish_blind parent _ db h
  | write m op =>
    have hw : m ≠ .insertOne := hw
    dsimp only
    rw [attempt_forgetInserts hw]
    have hs := h.attempt m
    rcases hA : db.attempt m with ⟨db', f⟩
    rw [hA] at hs
    cases f with
    | some f => exact finish_blind parent false db' hs
    | none => exact finish_blind parent false { db' with coll := op db'.coll } hs

theorem runFront_forgetInserts (h : db.AvoidsInserts) :
    db.forgetInserts.runFront = db.runFront.map forgetInserts ∧
      ∀ db', db.runFront = some db' → db'.AvoidsInserts := by
  unfold Db.runFront
  rw [show db.forgetInserts.queue = db.queue from rfl]
  split
  · exact ⟨rfl, nofun⟩
  · exact ⟨rfl, nofun⟩
  · rename_i g failed rest hq
    have hrest := h.withQueue (q := rest) fun e he => by simp [hq, he]
    obtain ⟨heq, hav⟩ := settle_blind g failed _ hrest
    refine ⟨congrArg some heq, fun db' hdb' => ?_⟩
    cases hdb'
    exact hav
  · rename_i w parent rest hq
    have hrest := h.withQueue (q := rest) fun e he => by simp [hq, he]
    have hw : w.AvoidsInserts := h (.step w parent) (by simp [hq])
    obtain ⟨heq, hav⟩ := runWork_blind parent hw _ hrest
    refine ⟨congrArg some heq, fun db' hdb' => ?_⟩
    cases hdb'
    exact hav

theorem runUntilMain_blind (fuel : Nat) : Blind (Db.runUntilMain fuel) := by
  induction fuel with
  | zero => exact fun _ h => ⟨rfl, h⟩
  | succ fuel ih =>
    intro db h
    obtain ⟨hfront, hav⟩ := runFront_forgetInserts h
    unfold Db.runUntilMain
    rw [hfront]
    cases hrun : db.runFront with
    | some db' => exact ih db' (hav db' hrun)
    | none => exact ⟨rfl, h.withQueue fun e he => List.mem_of_mem_drop he⟩

theorem pause_blind : Blind Db.pause := by
  intro db h
  unfold Db.pause
  exact runUntilMain_blind _ _ (h.enqueue (show Entry.AvoidsInserts .resumeMain from trivial))

/-! ### Operations of the main line -/

theorem call_blind {α : Type} (hm : m ≠ .insertOne) (op : Collection → Except Failure α) :
    BlindM (Db.call m op) := by
  intro db h
  unfold Db.call
  rw [attempt_forgetInserts hm]
  have hs := h.attempt m
  rcases hA : db.attempt m with ⟨db', f⟩
  rw [hA] at hs
  cases f <;> exact ⟨rfl, hs⟩

theorem read_blind {α : Type} (hm : m ≠ .insertOne) (op : Collection → Except Failure α) :
    BlindM (Db.read m op) := by
  intro db h
  obtain ⟨hcall, hs⟩ := call_blind hm op db h
  unfold Db.read
  rw [bind_apply, bind_apply, hcall]
  rcases hC : Db.call m op db with ⟨r, db'⟩
  rw [hC] at hs
  dsimp only
  split
  · split
    · obtain ⟨hpause, hs'⟩ := pause_blind db' hs
      rw [bind_apply, bind_apply]
      dsimp only [modify, modifyGet, MonadStateOf.modifyGet, StateT.modifyGet]
      rw [hpause]
      exact call_blind hm op _ hs'
    · exact ⟨rfl, hs⟩
  · exact ⟨rfl, hs⟩

theorem gather_blind {works : List Work} (hw : ∀ w ∈ works, w.AvoidsInserts) :
    BlindM (Db.gather works) := by
  intro db h
  unfold Db.gather
  obtain ⟨hopen, hs⟩ := openGathering_blind hw .main db h
  dsimp only at hopen ⊢
  rw [show (db.forgetInserts.openGathering works .main).2 = (db.openGathering works .main).2
    from rfl, hopen]
  obtain ⟨hrun, hs'⟩ := runUntilMain_blind (db.openGathering works .main).1.forgetInserts.fuel _ hs
  rw [show (db.openGathering works .main).1.forgetInserts.fuel =
    (db.openGathering works .main).1.fuel from rfl] at hrun hs' ⊢
  rw [hrun]
  exact ⟨rfl, hs'⟩

theorem write_blind {α : Type} (hm : m ≠ .insertOne)
    (op : Collection → Collection × Except Failure α) : BlindM (Db.write m op) := by
  intro db h
  unfold Db.write
  rw [attempt_forgetInserts hm]
  have hs := h.attempt m
  rcases hA : db.attempt m with ⟨db', f⟩
  rw [hA] at hs
  cases f with
  | some f => exact ⟨rfl, hs⟩
  | none => exact ⟨rfl, hs⟩

end Db

namespace Service

def forgetInserts (sv : Service) : Service := { sv with db := sv.db.forgetInserts }

/-- A service operation that answers alike with the insert faults forgotten, and starts no work
calling the insert. -/
def Blind {α : Type} (x : StateM Service α) : Prop :=
  ∀ sv : Service, sv.db.AvoidsInserts →
    x sv.forgetInserts = ((x sv).1, (x sv).2.forgetInserts) ∧ (x sv).2.db.AvoidsInserts

namespace Blind

variable {α β : Type}

theorem pure (a : α) : Blind (Pure.pure a : StateM Service α) := fun _ h => ⟨rfl, h⟩

theorem bind {x : StateM Service α} {f : α → StateM Service β} (hx : Blind x)
    (hf : ∀ a, Blind (f a)) : Blind (x >>= f) := fun sv h => by
  obtain ⟨hx₁, hx₂⟩ := hx sv h
  obtain ⟨hf₁, hf₂⟩ := hf (x sv).1 (x sv).2 hx₂
  rw [Db.bind_apply, Db.bind_apply, hx₁]
  exact ⟨hf₁, hf₂⟩

theorem get_bind {f : Service → StateM Service α} (hf : ∀ s, Blind (f s))
    (hs : ∀ s, f s.forgetInserts = f s) : Blind (get >>= f) := fun sv h => by
  rw [Db.bind_apply, Db.bind_apply]
  show f sv.forgetInserts sv.forgetInserts = _ ∧ _
  rw [hs]
  exact hf sv sv h

theorem onDb {x : StateM Db α} (hx : Db.BlindM x) : Blind (Service.onDb x) := fun sv h => by
  obtain ⟨hx₁, hx₂⟩ := hx sv.db h
  refine ⟨?_, hx₂⟩
  unfold Service.onDb
  rw [show sv.forgetInserts.db = sv.db.forgetInserts from rfl, hx₁]
  rfl

theorem now : Blind Service.now := get_bind (fun _ => pure _) fun _ => rfl

theorem read (m : StoreMethod) (hm : m ≠ .insertOne) (op : Collection → Except Failure α) :
    Blind (Service.onDb (Db.read m op)) :=
  onDb (Db.read_blind hm op)

theorem query (q : Listing) (excludeSelfAudit : Bool) :
    Blind (Service.query q excludeSelfAudit) := by
  unfold Service.query
  refine bind (onDb (Db.gather_blind ?_)) fun failed => get_bind (fun s => ?_) fun s => rfl
  · -- the listing's reads call the finder, the counter, the aggregation and the distinct values
    intro w hw
    simp only [List.mem_cons, List.not_mem_nil, or_false] at hw
    rcases hw with rfl | rfl | rfl
    · intro h
      cases h
    · intro h
      cases h
    · intro j hj h
      simp only [List.mem_cons, List.not_mem_nil, or_false] at hj
      rcases hj with rfl | rfl | rfl <;> cases h
  · dsimp only
    split
    · exact pure _
    · split <;> exact pure _

theorem statistics (daysBack : Value) : Blind (Service.statistics daysBack) := by
  unfold Service.statistics
  refine bind now fun upto => ?_
  split
  · exact pure _
  · exact bind (read _ (by decide) _) fun r => by split <;> exact pure _

theorem criticalEvents (hours : Value) : Blind (Service.criticalEvents hours) := by
  unfold Service.criticalEvents
  refine bind now fun t => ?_
  split
  · exact pure _
  · exact bind (read _ (by decide) _) fun r => by split <;> exact pure _

theorem critical (windowHours : Value) : Blind (Service.critical windowHours) := by
  unfold Service.critical
  split
  · exact pure _
  · exact bind (criticalEvents _) fun r => by split <;> exact pure _

theorem health (actor : String) : Blind (Service.health actor) := by
  unfold Service.health
  refine bind now fun t => ?_
  split
  · exact pure _
  · refine bind (read _ (by decide) _) fun r => ?_
    split
    · exact pure _
    · refine bind (read _ (by decide) _) fun r => ?_
      split
      · exact pure _
      · exact bind (criticalEvents _) fun r => by split <;> exact pure _

theorem exportEvents (r : ExportRequest) : Blind (Service.exportEvents r) := by
  unfold Service.exportEvents
  split
  · refine bind now fun t => ?_
    dsimp only
    exact bind (read _ (by decide) _) fun res => by split <;> exact pure _
  · exact pure _

theorem purge (days : Value) : Blind (Service.purge days) := by
  unfold Service.purge
  split
  · exact pure _
  · split
    · exact pure _
    · refine bind now fun t => ?_
      split
      · exact pure _
      · dsimp only
        exact bind (onDb (Db.write_blind (by decide) _)) fun r => by split <;> exact pure _

/-! ### Endpoints, which end early on a failure -/

theorem run_bind {x : Handler α} {f : α → Handler β} (hx : Blind x.run)
    (hf : ∀ a, Blind (f a).run) : Blind (x >>= f).run := by
  rw [ExceptT.run_bind]
  refine bind hx fun r => ?_
  cases r with
  | ok a => exact hf a
  | error e => exact pure _

theorem run_pure (a : α) : Blind (Pure.pure a : Handler α).run := pure _

theorem check (x : Except Failure α) : Blind (Handler.check x).run := pure _

theorem call {x : StateM Service (Except Failure α)} (hx : Blind x) : Blind (Handler.call x).run :=
  hx

theorem answer (a : Actor) (q : QueryPairs) (e : Endpoint) : Blind (Service.answer a q e).run := by
  cases e with
  | listLogs =>
    exact run_bind (check _) fun l => run_bind (query l true) fun p => run_pure _
  | statistics =>
    exact run_bind (check _) fun d => run_bind (statistics _) fun s => run_pure _
  | critical =>
    exact run_bind (check _) fun d => run_bind (critical _) fun c => run_pure _
  | health => exact run_bind (health _) fun h => run_pure _
  | exportLogs =>
    exact run_bind (check _) fun f => run_bind (check _) fun r =>
      run_bind (exportEvents r) fun x => run_pure _
  | cleanup =>
    unfold Service.answer
    dsimp only
    have hsweep : ∀ raw : Option String, Blind (do
        let days ← Handler.check (intParam "ageThresholdDays" raw 0)
        let p ← Handler.call (Service.purge (Value.int days))
        Pure.pure (Response.counted p.toValue p.deleted) : Handler Response).run := fun _ =>
      run_bind (check _) fun _ => run_bind (call (purge _)) fun _ => run_pure _
    split
    · exact run_bind (pure _) fun _ => hsweep _
    · exact hsweep _
  | home => exact run_pure _
  | page p => exact run_pure _
  | description => exact run_pure _

theorem serve (req : HttpRequest) (e : Endpoint) : Blind (Service.serve req e) := by
  unfold Service.serve
  split
  · exact pure _
  · split
    · exact pure _
    · exact bind (answer _ _ _) fun r => pure _

theorem respond (req : HttpRequest) : Blind (Service.respond req) := by
  unfold Service.respond
  split
  · refine bind (serve _ _) fun ⟨actor, r⟩ => ?_
    dsimp only
    split
    · exact pure _
    · split <;> exact pure _
  · exact pure _
  · exact pure _
  · exact pure _

end Blind

theorem handle_fst (req : HttpRequest) (sv : Service) :
    (handle req sv).1 = ((Response.preflight? req).getD (respond req sv).1.1) := by
  unfold handle
  cases Response.preflight? req with
  | some resp => rfl
  | none => rfl

theorem handle_forgetInserts (req : HttpRequest) (sv : Service) (h : sv.db.AvoidsInserts) :
    (handle req sv.forgetInserts).1 = (handle req sv).1 := by
  rw [handle_fst, handle_fst, ((Blind.respond req) sv h).1]

/-- Arming a fault of the insert changes no response: the fault can only meet the access
records written after it. -/
theorem handle_arm_insert (req : HttpRequest) {sv : Service} (h : sv.db.AvoidsInserts)
    (p : FaultPlan) : (handle req { sv with db := sv.db.arm .insertOne p }).1 = (handle req sv).1 := by
  have hforget : ({ sv with db := sv.db.arm .insertOne p } : Service).forgetInserts =
      sv.forgetInserts := by
    simp [forgetInserts, Db.forgetInserts, Db.arm, List.filter_filter]
  calc (handle req { sv with db := sv.db.arm .insertOne p }).1
      = (handle req ({ sv with db := sv.db.arm .insertOne p } : Service).forgetInserts).1 :=
        (handle_forgetInserts req { sv with db := sv.db.arm .insertOne p } h).symm
    _ = (handle req sv.forgetInserts).1 := by rw [hforget]
    _ = (handle req sv).1 := handle_forgetInserts req sv h

end Service

end AuditTrail
