import Mathlib
import AuditTrail.Proofs.Gathering
import AuditTrail.Proofs.ReadOnlyWork
import AuditTrail.Proofs.ExportedEvents
import AuditTrail.Proofs.SchedulerFuel

/-!
# Store faults

A read tries once more after a transient fault and a write once; every report under planned
faults answers as with none or fails with its own fixed failure (`Service.ToleratesFaults`).
-/

namespace AuditTrail

namespace Db

def spend (db : Db) (m : StoreMethod) (p : FaultPlan) (k : Nat) : Db :=
  { db with plans := db.plans.map fun q => if q.1 == m then (m, { p with remaining := p.remaining - k }) else q }

variable {db : Db} {m m' : StoreMethod} {p : FaultPlan}

theorem attempt_of_plan (hf : db.plans.find? (·.1 == m) = some (m', p)) (hp : p.remaining ≠ 0) :
    db.attempt m = (db.spend m p 1, some (.store p.kind p.message)) := by
  unfold attempt
  rw [hf]
  simp [hp, spend]

theorem attempt_of_zero (hf : db.plans.find? (·.1 == m) = some (m', p)) (hp : p.remaining = 0) :
    db.attempt m = (db, none) := by
  unfold attempt
  rw [hf]
  simp [hp]

theorem attempt_of_none (hf : db.plans.find? (·.1 == m) = none) : db.attempt m = (db, none) := by
  unfold attempt
  rw [hf]

theorem find?_spend (hf : db.plans.find? (·.1 == m) = some (m', p)) (k : Nat) :
    (db.spend m p k).plans.find? (·.1 == m) = some (m, { p with remaining := p.remaining - k }) := by
  unfold spend
  dsimp only
  rw [find?_map_plans, if_pos rfl, hf]
  rfl

theorem spend_spend (k l : Nat) :
    (db.spend m p k).spend m { p with remaining := p.remaining - k } l = db.spend m p (k + l) := by
  simp only [spend, List.map_map, Db.mk.injEq, and_true, true_and]
  refine List.map_congr_left fun q _ => ?_
  by_cases hq : q.1 = m <;> simp [hq, Nat.sub_sub]

@[simp] theorem spend_queue (k : Nat) : (db.spend m p k).queue = db.queue := rfl

@[simp] theorem spend_coll (k : Nat) : (db.spend m p k).coll = db.coll := rfl

theorem call_of_quiet_attempt {α : Type} (h : db.attempt m = (db, none))
    (op : Collection → Except Failure α) : Db.call m op db = (op db.coll, db) := by
  unfold Db.call
  rw [h]

theorem call_of_faulted_attempt {α : Type} {db' : Db} {f : Failure}
    (h : db.attempt m = (db', some f)) (op : Collection → Except Failure α) :
    Db.call m op db = (.error f, db') := by
  unfold Db.call
  rw [h]

theorem read_of_quiet_attempt {α : Type} (hidle : db.queue = []) (h : db.attempt m = (db, none))
    (op : Collection → Except Failure α) : Db.read m op db = (op db.coll, db) := by
  have hcall := call_of_quiet_attempt h op
  unfold Db.read
  rw [bind_apply, hcall]
  dsimp only
  cases hop : op db.coll with
  | error f =>
    dsimp only
    split
    · rw [bind_apply]
      dsimp only [modify, modifyGet, MonadStateOf.modifyGet, StateT.modifyGet]
      rw [pause_of_idle hidle]
      show Db.call m op db = _
      rw [hcall, hop]
    · rfl
  | ok a => rfl

theorem read_of_unplanned {α : Type} (hidle : db.queue = [])
    (hf : db.plans.find? (·.1 == m) = none) (op : Collection → Except Failure α) :
    Db.read m op db = (op db.coll, db) :=
  read_of_quiet_attempt hidle (attempt_of_none hf) op

/-- A read under a plan, with nothing in flight: a second call follows only a transient fault,
and every fault met is used up. -/
theorem read_of_plan {α : Type} (hidle : db.queue = [])
    (hf : db.plans.find? (·.1 == m) = some (m', p)) (op : Collection → Except Failure α) :
    Db.read m op db =
      if p.remaining = 0 then (op db.coll, db)
      else if p.kind.isTransient then
        if p.remaining = 1 then (op db.coll, db.spend m p 1)
        else (.error (.store p.kind p.message), db.spend m p 2)
      else (.error (.store p.kind p.message), db.spend m p 1) := by
  by_cases h0 : p.remaining = 0
  · rw [if_pos h0]
    exact read_of_quiet_attempt hidle (attempt_of_zero hf h0) op
  rw [if_neg h0]
  have hfirst := call_of_faulted_attempt (attempt_of_plan hf h0) op
  unfold Db.read
  rw [bind_apply, hfirst]
  dsimp only
  by_cases hk : p.kind.isTransient
  · -- the second call, after giving way to nothing, meets the plan with one fault fewer
    rw [if_pos hk, if_pos (by simp [transient, hk]), bind_apply]
    dsimp only [modify, modifyGet, MonadStateOf.modifyGet, StateT.modifyGet]
    rw [pause_of_idle (by simpa using hidle)]
    show Db.call m op (db.spend m p 1) = _
    have hf' := find?_spend hf 1
    by_cases h1 : p.remaining = 1
    · rw [if_pos h1]
      exact call_of_quiet_attempt (attempt_of_zero hf' (by simp only; omega)) op
    · rw [if_neg h1, call_of_faulted_attempt (attempt_of_plan hf' (by simp only; omega)) op,
        spend_spend]
  · rw [if_neg hk, if_neg (by simp [transient, hk])]
    rfl

/-- A read as the retry policy describes it, with nothing in flight: a second call after a
transient fault, each fault met used up, the last one raised when every call failed. -/
def readSpec {α : Type} (m : StoreMethod) (op : Collection → Except Failure α) (db : Db) :
    Except Failure α × Db :=
  match db.plans.find? (·.1 == m) with
  | none => (op db.coll, db)
  | some (_, p) =>
    if p.remaining = 0 then (op db.coll, db)
    else if p.kind.isTransient then
      if p.remaining = 1 then (op db.coll, db.spend m p 1)
      else (.error (.store p.kind p.message), db.spend m p 2)
    else (.error (.store p.kind p.message), db.spend m p 1)

/-- A write as one call: it fails with the next planned fault of the method, using it up, or
does what the method does to the collection. -/
def writeSpec {α : Type} (m : StoreMethod) (op : Collection → Collection × Except Failure α)
    (db : Db) : Except Failure α × Db :=
  match db.plans.find? (·.1 == m) with
  | some (_, p) =>
    if p.remaining = 0 then ((op db.coll).2, { db with coll := (op db.coll).1 })
    else (.error (.store p.kind p.message), db.spend m p 1)
  | none => ((op db.coll).2, { db with coll := (op db.coll).1 })

/-- One try of a gathered read is one call of its method, which leaves the collection and the
gatherings as they are. The task then ends and reports to its gathering, or, on its first try
after a transient fault, queues exactly one retry: so a gathered read calls at most twice. -/
theorem runWork_read (db : Db) (parent : Option Nat) (job : ReadJob) (again : Bool) :
    (db.runWork parent (.read job again)).plans = (db.attempt job.method).1.plans ∧
      (db.runWork parent (.read job again)).coll = db.coll ∧
      (db.runWork parent (.read job again)).gatherings = db.gatherings ∧
      ((∃ failed, (db.runWork parent (.read job again)).queue =
          db.queue ++ parent.toList.map (.settle · failed)) ∨
        (again = false ∧ (∃ f, (db.attempt job.method).2 = some f ∧ transient f = true) ∧
          (db.runWork parent (.read job again)).queue =
            db.queue ++ [.step (.read job true) parent])) := by
  obtain ⟨plans, hatt⟩ := attempt_fst db job.method
  dsimp only [Db.runWork]
  rcases hA : db.attempt job.method with ⟨d, _ | f⟩
  all_goals rw [hA] at hatt; cases hatt
  · -- the call answered: the task ends with the check
    dsimp only
    rw [finish_eq]
    exact ⟨rfl, rfl, rfl, .inl ⟨_, rfl⟩⟩
  · dsimp only
    by_cases hretry : (transient f && !again) = true
    · rw [if_pos hretry]
      simp only [Bool.and_eq_true, Bool.not_eq_true'] at hretry
      exact ⟨rfl, rfl, rfl, .inr ⟨hretry.2, ⟨f, rfl, hretry.1⟩, rfl⟩⟩
    · rw [if_neg hretry, finish_eq]
      exact ⟨rfl, rfl, rfl, .inl ⟨_, rfl⟩⟩

theorem read_eq_readSpec {α : Type} (hidle : db.queue = []) (op : Collection → Except Failure α) :
    Db.read m op db = readSpec m op db := by
  unfold readSpec
  cases hf : db.plans.find? (·.1 == m) with
  | none => exact read_of_unplanned hidle hf op
  | some q =>
    obtain ⟨m', p⟩ := q
    exact read_of_plan hidle hf op

theorem write_eq_writeSpec {α : Type} (op : Collection → Collection × Except Failure α) :
    Db.write m op db = writeSpec m op db := by
  unfold Db.write writeSpec
  cases hf : db.plans.find? (·.1 == m) with
  | none => rw [attempt_of_none hf]
  | some q =>
    obtain ⟨m', p⟩ := q
    dsimp only
    by_cases h0 : p.remaining = 0
    · rw [if_pos h0, attempt_of_zero hf h0]
    · rw [if_neg h0, attempt_of_plan hf h0]

theorem read_of_quiet_eq {α : Type} (hq : db.Quiet) (op : Collection → Except Failure α) :
    Db.read m op db = (op db.coll, db) :=
  read_of_quiet_attempt hq.idle (attempt_eq hq.noFault m) op

theorem read_of_retryable {α : Type} (hidle : db.queue = []) (hplans : Retryable db.plans)
    (op : Collection → Except Failure α) :
    (Db.read m op db).1 = op db.coll ∧ (Db.read m op db).2.queue = [] ∧
      Retryable (Db.read m op db).2.plans ∧ (Db.read m op db).2.coll = db.coll := by
  by_cases hm : Spent db.plans m
  · rw [read_of_quiet_attempt hidle (attempt_of_spent hm)]
    exact ⟨rfl, hidle, hplans, rfl⟩
  · obtain ⟨k, msg, plans, hatt, hk, hplans', hspent, -⟩ := attempt_retryable hplans hm
    have hsecond : Db.call m op { db with plans } = (op db.coll, { db with plans }) :=
      call_of_quiet_attempt (attempt_of_spent hspent) op
    unfold Db.read
    rw [bind_apply, call_of_faulted_attempt hatt op]
    dsimp only
    rw [if_pos (by simp [transient, hk]), bind_apply]
    dsimp only [modify, modifyGet, MonadStateOf.modifyGet, StateT.modifyGet]
    rw [pause_of_idle (by simpa using hidle)]
    show (Db.call m op { db with plans }).1 = _ ∧ (Db.call m op { db with plans }).2.queue = [] ∧
      Retryable (Db.call m op { db with plans }).2.plans ∧
      (Db.call m op { db with plans }).2.coll = db.coll
    rw [hsecond]
    exact ⟨rfl, hidle, hplans', rfl⟩

def ReadsKeep (Cond : Db → Prop) (faults : Prop) : Prop :=
  ∀ db, Cond db → ∀ {α : Type} (m : StoreMethod) (op : Collection → Except Failure α),
    Cond (Db.read m op db).2 ∧ (Db.read m op db).2.coll = db.coll ∧
      ((Db.read m op db).1 = op db.coll ∨
        faults ∧ ∃ k msg, (Db.read m op db).1 = .error (.store k msg))

theorem readsKeep_onlyReads : ReadsKeep (OnlyReads fun _ => True) True := by
  intro db h α m op
  obtain ⟨hs, hc⟩ := h.read plansKeep_true m op
  refine ⟨hs, hc, ?_⟩
  rcases h.read_eq plansKeep_true m op with hr | hr
  · exact .inl hr
  · exact .inr ⟨trivial, hr⟩

theorem readsKeep_retryable : ReadsKeep (fun db => db.queue = [] ∧ Retryable db.plans) False := by
  intro db ⟨hidle, hplans⟩ α m op
  obtain ⟨hr, hq, hp, hc⟩ := read_of_retryable (m := m) hidle hplans op
  exact ⟨⟨hq, hp⟩, hc, .inl hr⟩

end Db

namespace Service

def faultFree (sv : Service) : Service := { sv with db := { coll := sv.db.coll } }

@[simp] theorem faultFree_coll (sv : Service) : sv.faultFree.db.coll = sv.db.coll := rfl

@[simp] theorem faultFree_clock (sv : Service) : sv.faultFree.clock = sv.clock := rfl

@[simp] theorem faultFree_faultFree (sv : Service) : sv.faultFree.faultFree = sv.faultFree := rfl

theorem faultFree_quiet (sv : Service) : sv.faultFree.db.Quiet :=
  ⟨fun _ _ h => (by cases h), rfl⟩

/-- Run under condition `Cond` on the store, `x` answers what it answers on the fault-free
twin of the service, or fails with a failure that `bad` allows; it keeps the condition, the
collection and the clock. On the fault-free twin it changes nothing. -/
def Shadows {α : Type} (Cond : Db → Prop) (bad : Failure → Prop)
    (x : StateM Service (Except Failure α)) : Prop :=
  (∀ sv : Service, (x sv.faultFree).2 = sv.faultFree) ∧
  ∀ sv : Service, Cond sv.db →
    ((x sv).1 = (x sv.faultFree).1 ∨ ∃ f, (x sv).1 = .error f ∧ bad f) ∧
      Cond (x sv).2.db ∧ (x sv).2.faultFree = sv.faultFree

namespace Shadows

variable {Cond : Db → Prop} {bad bad' : Failure → Prop} {α β : Type}

theorem pure (r : Except Failure α) : Shadows Cond bad (Pure.pure r : StateM Service _) :=
  ⟨fun _ => rfl, fun _ h => ⟨.inl rfl, h, rfl⟩⟩

theorem mono {x : StateM Service (Except Failure α)} (hx : Shadows Cond bad x)
    (hbad : ∀ f, bad f → bad' f) : Shadows Cond bad' x := by
  refine ⟨hx.1, fun sv h => ?_⟩
  obtain ⟨hr, hc, hf⟩ := hx.2 sv h
  refine ⟨hr.imp_right fun ⟨f, hf, hb⟩ => ⟨f, hf, hbad f hb⟩, hc, hf⟩

theorem read (hR : Db.ReadsKeep Cond faults) (m : StoreMethod) (op : Collection → Except Failure α) :
    Shadows Cond (fun f => faults ∧ ∃ k msg, f = .store k msg) (onDb (Db.read m op)) := by
  refine ⟨fun sv => ?_, fun sv h => ?_⟩
  · show { sv.faultFree with db := (Db.read m op sv.faultFree.db).2 } = sv.faultFree
    rw [Db.read_of_quiet_eq sv.faultFree_quiet]
  · obtain ⟨hc, hcoll, hr⟩ := hR sv.db h m op
    refine ⟨?_, hc, ?_⟩
    · show (Db.read m op sv.db).1 = (Db.read m op sv.faultFree.db).1 ∨ _
      rw [Db.read_of_quiet_eq sv.faultFree_quiet]
      rcases hr with hr | ⟨hf, k, msg, hr⟩
      · exact .inl hr
      · exact .inr ⟨_, hr, hf, k, msg, rfl⟩
    · show Service.faultFree { sv with db := (Db.read m op sv.db).2 } = sv.faultFree
      simp only [faultFree, hcoll]

theorem now_bind {k : Stamp → StateM Service (Except Failure α)} (hk : ∀ t, Shadows Cond bad (k t)) :
    Shadows Cond bad (now >>= k) :=
  ⟨fun sv => (hk sv.clock).1 sv, fun sv h => (hk sv.clock).2 sv h⟩

theorem bind {x : StateM Service (Except Failure α)} {k : Except Failure α → StateM Service (Except Failure β)}
    (hx : Shadows Cond bad x) (hk : ∀ r, Shadows Cond bad' (k r))
    (herr : ∀ f, bad f → ∃ f', bad' f' ∧ ∀ sv, k (.error f) sv = (.error f', sv)) :
    Shadows Cond bad' (x >>= k) := by
  refine ⟨fun sv => ?_, fun sv h => ?_⟩
  · show (k (x sv.faultFree).1 (x sv.faultFree).2).2 = sv.faultFree
    rw [hx.1 sv]
    exact (hk _).1 sv
  · obtain ⟨hr, hc, hf⟩ := hx.2 sv h
    show ((k (x sv).1 (x sv).2).1 = (k (x sv.faultFree).1 (x sv.faultFree).2).1 ∨
        ∃ f, (k (x sv).1 (x sv).2).1 = .error f ∧ bad' f) ∧
      Cond (k (x sv).1 (x sv).2).2.db ∧ (k (x sv).1 (x sv).2).2.faultFree = sv.faultFree
    rw [hx.1 sv]
    rcases hr with hr | ⟨f, hr, hb⟩
    · -- the step answered as on the twin: the continuation runs from the same answer
      rw [hr]
      obtain ⟨hr', hc', hf'⟩ := (hk (x sv.faultFree).1).2 (x sv).2 hc
      rw [hf] at hr' hf'
      exact ⟨hr', hc', hf'⟩
    · -- the step failed: the continuation passes the failure on
      obtain ⟨f', hb', hkf⟩ := herr f hb
      rw [hr, hkf]
      exact ⟨.inr ⟨f', rfl, hb'⟩, hc, hf⟩

theorem read_bind {faults : Prop} (hR : Db.ReadsKeep Cond faults) {g : Failure}
    (hg : faults → bad g) {m : StoreMethod} {op : Collection → Except Failure α}
    {k : Except Failure α → StateM Service (Except Failure β)}
    (herr : ∀ f, k (.error f) = Pure.pure (.error g)) (hok : ∀ a, Shadows Cond bad (k (.ok a))) :
    Shadows Cond bad (onDb (Db.read m op) >>= k) := by
  refine bind (read hR m op) (fun r => ?_) fun f hf => ⟨g, hg hf.1, fun sv => by rw [herr]; rfl⟩
  cases r with
  | error f =>
    rw [herr]
    exact pure _
  | ok a => exact hok a

end Shadows

section
variable {Cond : Db → Prop} {bad : Failure → Prop} {faults : Prop}

theorem statistics_shadows (hR : Db.ReadsKeep Cond faults)
    (hg : faults → bad (.queryFailed "could not complete statistics query")) (n : Value) :
    Shadows Cond bad (statistics n) := by
  unfold statistics
  refine Shadows.now_bind fun upto => ?_
  split
  · exact Shadows.pure _
  · exact Shadows.read_bind hR hg (fun _ => rfl) fun _ => Shadows.pure _

theorem criticalEvents_shadows (hR : Db.ReadsKeep Cond faults)
    (hg : faults → bad (.queryFailed "could not complete critical events query")) (h : Value) :
    Shadows Cond bad (criticalEvents h) := by
  unfold criticalEvents
  refine Shadows.now_bind fun t => ?_
  split
  · exact Shadows.pure _
  · exact Shadows.read_bind hR hg (fun _ => rfl) fun _ => Shadows.pure _

theorem Shadows.bind_pass {α β : Type} {x : StateM Service (Except Failure α)}
    {k : Except Failure α → StateM Service (Except Failure β)} (hx : Shadows Cond bad x)
    (herr : ∀ f, k (.error f) = Pure.pure (.error f))
    (hok : ∀ a, ∃ r, k (.ok a) = Pure.pure r) : Shadows Cond bad (x >>= k) := by
  refine Shadows.bind hx (fun r => ?_) fun f hf => ⟨f, hf, fun sv => by rw [herr]; rfl⟩
  cases r with
  | error f =>
    rw [herr]
    exact Shadows.pure _
  | ok a =>
    obtain ⟨r, hr⟩ := hok a
    rw [hr]
    exact Shadows.pure _

theorem critical_shadows (hR : Db.ReadsKeep Cond faults)
    (hg : faults → bad (.queryFailed "could not complete critical events query")) (h : Value) :
    Shadows Cond bad (critical h) := by
  unfold critical
  split
  · exact Shadows.pure _
  · exact (criticalEvents_shadows hR hg h).bind_pass (fun _ => rfl) fun _ => ⟨_, rfl⟩

theorem health_shadows (hR : Db.ReadsKeep Cond faults)
    (hg : faults → bad (.queryFailed "could not complete health check"))
    (hg' : faults → bad (.queryFailed "could not complete critical events query")) (actor : String) :
    Shadows Cond bad (health actor) := by
  unfold health
  refine Shadows.now_bind fun t => ?_
  split
  · exact Shadows.pure _
  · -- the count, the newest event, then the critical events
    refine Shadows.read_bind hR hg (fun _ => rfl) fun events => ?_
    refine Shadows.read_bind hR hg (fun _ => rfl) fun latest => ?_
    exact (criticalEvents_shadows hR hg' _).bind_pass (fun _ => rfl) fun _ => ⟨_, rfl⟩

theorem exportEvents_shadows (hR : Db.ReadsKeep Cond faults)
    (hg : faults → bad (.exportFailed exportFailedText)) (r : ExportRequest) :
    Shadows Cond bad (exportEvents r) := by
  unfold exportEvents
  split
  · refine Shadows.now_bind fun t => ?_
    refine Shadows.read_bind hR hg (fun _ => rfl) fun docs => ?_
    cases docs <;> exact Shadows.pure _
  · exact Shadows.pure _

end

/-- How a step bears planned faults: it answers as with none or fails with a `generic` failure,
and answers as with none when every fault is transient and planned once per method. -/
def ToleratesFaults {α : Type} (generic : List Failure) (x : StateM Service (Except Failure α)) :
    Prop :=
  (∀ sv : Service, sv.db.OnlyReads (fun _ => True) →
    ((x sv).1 = (x sv.faultFree).1 ∨ ∃ f ∈ generic, (x sv).1 = .error f) ∧
      (x sv).2.db.coll = sv.db.coll) ∧
  ∀ sv : Service, sv.db.queue = [] → Db.Retryable sv.db.plans → (x sv).1 = (x sv.faultFree).1

theorem ToleratesFaults.of_shadows {α : Type} {generic : List Failure}
    {x : StateM Service (Except Failure α)}
    (h₁ : Shadows (Db.OnlyReads fun _ => True) (· ∈ generic) x)
    (h₂ : Shadows (fun db => db.queue = [] ∧ Db.Retryable db.plans) (fun _ => False) x) :
    ToleratesFaults generic x := by
  refine ⟨fun sv h => ?_, fun sv hidle hplans => ?_⟩
  · obtain ⟨hr, -, hf⟩ := h₁.2 sv h
    refine ⟨hr.imp_right fun ⟨f, hf, hb⟩ => ⟨f, hb, hf⟩, ?_⟩
    rw [← faultFree_coll, hf, faultFree_coll]
  · obtain ⟨hr, -⟩ := h₂.2 sv ⟨hidle, hplans⟩
    rcases hr with hr | ⟨_, _, hb⟩
    · exact hr
    · exact hb.elim

/-- A gathering of first tries of reads, followed by a step that fails with `E` when the
gathering failed and otherwise answers from the collection alone (with `E` unless every check
of the gathering passes), bears faults with `E` as its only failure. -/
theorem gather_bind_tolerates {α : Type} {E : Failure} {W : List Work}
    {K : Bool → StateM Service (Except Failure α)}
    (hW : ∀ w ∈ W, w.WritesNothing ∧ ∀ plans, w.SpentFor plans)
    (hfail : ∀ s, K true s = (.error E, s)) (hstate : ∀ s, (K false s).2 = s)
    (hcoll : ∀ s s' : Service, s.db.coll = s'.db.coll → (K false s).1 = (K false s').1)
    (hpass : ∀ s : Service, (K false s).1 = .error E ∨ ∀ w ∈ W, Db.WorkPasses s.db.coll w) :
    ToleratesFaults [E] (onDb (Db.gather W) >>= K) := by
  have hkeep : ∀ sv : Service, sv.db.OnlyReads (fun _ => True) →
      (Db.gather W sv.db).2.coll = sv.db.coll := fun sv h =>
    (h.gather Db.plansKeep_true fun w hw => (hW w hw).1).2
  have hrun : ∀ sv : Service, (onDb (Db.gather W) >>= K) sv =
      K (Db.gather W sv.db).1 { sv with db := (Db.gather W sv.db).2 } := fun _ => rfl
  have hfree : ∀ sv : Service, (∀ w ∈ W, Db.WorkPasses sv.db.coll w) →
      (Db.gather W sv.faultFree.db).1 = false := fun sv hp =>
    (Db.gather_quiet (faultFree_quiet sv) hp).1
  have hsame : ∀ sv : Service, sv.db.OnlyReads (fun _ => True) →
      (K false { sv with db := (Db.gather W sv.db).2 }).1 =
        (K false { sv.faultFree with db := (Db.gather W sv.faultFree.db).2 }).1 := fun sv h =>
    hcoll _ _ ((hkeep sv h).trans (hkeep sv.faultFree ⟨by simp [faultFree], trivial⟩).symm)
  refine ⟨fun sv h => ⟨?_, ?_⟩, fun sv hidle hplans => ?_⟩
  · rw [hrun, hrun]
    cases hf : (Db.gather W sv.db).1
    · rcases hpass { sv with db := (Db.gather W sv.db).2 } with hE | hp
      · exact .inr ⟨E, List.mem_singleton_self E, hE⟩
      · rw [hfree sv fun w hw => (hkeep sv h) ▸ hp w hw]
        exact .inl (hsame sv h)
    · rw [hfail]
      exact .inr ⟨E, List.mem_singleton_self E, rfl⟩
  · rw [hrun]
    cases (Db.gather W sv.db).1
    · rw [hstate]
      exact hkeep sv h
    · rw [hfail]
      exact hkeep sv h
  · have h : sv.db.OnlyReads (fun _ => True) := ⟨by simp [hidle], trivial⟩
    rw [hrun, hrun]
    rcases hpass { sv with db := (Db.gather W sv.db).2 } with hE | hp
    · -- the answer is the failure whether or not either gathering failed
      have hE' : (K false { sv.faultFree with db := (Db.gather W sv.faultFree.db).2 }).1 =
          .error E := (hsame sv h).symm.trans hE
      cases (Db.gather W sv.db).1 <;> cases (Db.gather W sv.faultFree.db).1 <;>
        simp only [hfail, hE, hE']
    · have hp' : ∀ w ∈ W, Db.WorkPasses sv.db.coll w := fun w hw => (hkeep sv h) ▸ hp w hw
      rw [(Db.gather_retryable hidle hplans hp' fun w hw => (hW w hw).2 _).1, hfree sv hp']
      exact hsame sv h

theorem query_toleratesFaults (q : Listing) (excludeSelfAudit : Bool) :
    ToleratesFaults [.queryFailed queryFailedText] (query q excludeSelfAudit) := by
  have hget : ∀ t : Service, (get : StateM Service Service) t = (t, t) := fun _ => rfl
  unfold query
  refine gather_bind_tolerates ?_ (fun _ => rfl) ?_ ?_ ?_
  · intro w hw
    simp only [List.mem_cons, List.not_mem_nil, or_false] at hw
    rcases hw with rfl | rfl | rfl <;> exact ⟨trivial, fun _ => trivial⟩
  · intro s
    rw [Db.bind_apply]
    simp only [Bool.false_eq_true, if_false, hget]
    generalize (s.db.coll.find _ _ _ _ >>= _ : Except Failure _) = E
    cases E <;> rfl
  · intro s s' h
    rw [Db.bind_apply, Db.bind_apply]
    simp only [Bool.false_eq_true, if_false, hget]
    rw [h]
    generalize (s'.db.coll.find _ _ _ _ >>= _ : Except Failure _) = E
    cases E <;> rfl
  · -- the answer is the failure unless every read answers, and then every check passes
    intro s
    rw [Db.bind_apply]
    simp only [Bool.false_eq_true, if_false, hget]
    generalize hE : (s.db.coll.find _ _ _ _ >>= _ : Except Failure _) = E
    cases E with
    | error f => exact .inl rfl
    | ok a =>
      right
      simp only [bind_eq_ok] at hE
      obtain ⟨docs, hfind, total, hcount, summary, hsum, -⟩ := hE
      obtain ⟨counts, hcounts, users, husers, range, hrange, hof⟩ := hsum
      intro w hw
      simp only [List.mem_cons, List.not_mem_nil, or_false] at hw
      rcases hw with rfl | rfl | rfl
      · simp [Db.WorkPasses, hfind, failureOf]
      · simp [Db.WorkPasses, hcount, failureOf]
      · simp [Db.WorkPasses, hcounts, husers, hrange, hof, failureOf, bind, Except.bind]

theorem statistics_toleratesFaults (n : Value) :
    ToleratesFaults [.queryFailed "could not complete statistics query"] (statistics n) :=
  .of_shadows (statistics_shadows Db.readsKeep_onlyReads (fun _ => List.mem_singleton_self _) n)
    (statistics_shadows Db.readsKeep_retryable False.elim n)

theorem critical_toleratesFaults (h : Value) :
    ToleratesFaults [.queryFailed "could not complete critical events query"] (critical h) :=
  .of_shadows (critical_shadows Db.readsKeep_onlyReads (fun _ => List.mem_singleton_self _) h)
    (critical_shadows Db.readsKeep_retryable False.elim h)

theorem health_toleratesFaults (actor : String) :
    ToleratesFaults [.queryFailed "could not complete health check",
      .queryFailed "could not complete critical events query"] (health actor) :=
  .of_shadows (health_shadows Db.readsKeep_onlyReads (fun _ => by simp) (fun _ => by simp) actor)
    (health_shadows Db.readsKeep_retryable False.elim False.elim actor)

theorem exportEvents_toleratesFaults (r : ExportRequest) :
    ToleratesFaults [.exportFailed exportFailedText] (exportEvents r) :=
  .of_shadows (exportEvents_shadows Db.readsKeep_onlyReads (fun _ => List.mem_singleton_self _) r)
    (exportEvents_shadows Db.readsKeep_retryable False.elim r)

end Service

/-- Reads, alone or gathered, are tried at most twice and writes once, as the retry policy says;
every report either answers as with no fault or fails with its own fixed failure, and answers
as with no fault when each planned fault is transient and planned at most once per method. -/
theorem store_faults_contained :
    (∀ {α : Type} (m : StoreMethod) (op : Collection → Except Failure α) (db : Db),
      db.queue = [] → Db.read m op db = Db.readSpec m op db) ∧
    (∀ {α : Type} (m : StoreMethod) (op : Collection → Collection × Except Failure α) (db : Db),
      Db.write m op db = Db.writeSpec m op db) ∧
    (∀ (db : Db) (parent : Option Nat) (job : ReadJob) (again : Bool),
      (db.runWork parent (.read job again)).plans = (db.attempt job.method).1.plans ∧
        (db.runWork parent (.read job again)).coll = db.coll ∧
        (db.runWork parent (.read job again)).gatherings = db.gatherings ∧
        ((∃ failed, (db.runWork parent (.read job again)).queue =
            db.queue ++ parent.toList.map (.settle · failed)) ∨
          (again = false ∧ (∃ f, (db.attempt job.method).2 = some f ∧ Db.transient f = true) ∧
            (db.runWork parent (.read job again)).queue =
              db.queue ++ [.step (.read job true) parent]))) ∧
    (∀ q excludeSelfAudit, Service.ToleratesFaults [.queryFailed queryFailedText]
      (Service.query q excludeSelfAudit)) ∧
    (∀ n, Service.ToleratesFaults [.queryFailed "could not complete statistics query"]
      (Service.statistics n)) ∧
    (∀ h, Service.ToleratesFaults [.queryFailed "could not complete critical events query"]
      (Service.critical h)) ∧
    (∀ actor, Service.ToleratesFaults [.queryFailed "could not complete health check",
      .queryFailed "could not complete critical events query"] (Service.health actor)) ∧
    (∀ r, Service.ToleratesFaults [.exportFailed Service.exportFailedText]
      (Service.exportEvents r)) :=
  ⟨fun _ _ _ hidle => Db.read_eq_readSpec hidle _, fun _ _ _ => Db.write_eq_writeSpec _,
    Db.runWork_read, Service.query_toleratesFaults, Service.statistics_toleratesFaults,
    Service.critical_toleratesFaults, Service.health_toleratesFaults,
    Service.exportEvents_toleratesFaults⟩

/-- Two planned transient faults of `find`: the read meets both and fails with the second. -/
theorem read_meets_two_transient_faults :
    Db.read .find (fun c => .ok c.size)
        ({ plans := [(.find, ⟨.autoReconnect, "down", 2⟩)] } : Db) =
      (.error (.store .autoReconnect "down"), { plans := [(.find, ⟨.autoReconnect, "down", 0⟩)] }) := by
  rw [store_faults_contained.1 _ _ _ rfl]
  rfl

end AuditTrail
