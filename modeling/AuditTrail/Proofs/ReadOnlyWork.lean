import Mathlib
import AuditTrail.Proofs.Gathering

/-!
# Work in flight that only reads

On a store whose work in flight writes nothing (`Db.OnlyReads`), every step of the scheduler
leaves the collection as it is, whatever faults are planned.
-/

namespace AuditTrail

def Work.WritesNothing : Work → Prop
  | .write _ _ => False
  | _ => True

def Entry.WritesNothing : Entry → Prop
  | .step w _ => w.WritesNothing
  | _ => True

namespace Db

def InsertsPass (plans : List (StoreMethod × FaultPlan)) : Prop :=
  ∀ q ∈ plans, q.1 = .insertOne → q.2.remaining = 0

/-- A property of the fault plans that every call of a store method keeps. -/
def PlansKeep (P : List (StoreMethod × FaultPlan) → Prop) : Prop :=
  ∀ (db : Db) (m : StoreMethod), P db.plans → P (db.attempt m).1.plans

/-- A store whose work in flight writes nothing and whose fault plans have property `P`. -/
structure OnlyReads (P : List (StoreMethod × FaultPlan) → Prop) (db : Db) : Prop where
  queue : ∀ e ∈ db.queue, e.WritesNothing
  plans : P db.plans

/-- A store whose work in flight writes nothing and whose inserts go through. -/
structure Steady (db : Db) : Prop where
  queue : ∀ e ∈ db.queue, e.WritesNothing
  inserts : InsertsPass db.plans

variable {db : Db}

theorem bind_apply {σ α β : Type} (x : StateM σ α) (f : α → StateM σ β) (s : σ) :
    (x >>= f) s = f (x s).1 (x s).2 := rfl

theorem attempt_fst (db : Db) (m : StoreMethod) : ∃ plans, (db.attempt m).1 = { db with plans } := by
  unfold attempt
  split
  · split
    · exact ⟨db.plans, rfl⟩
    · exact ⟨_, rfl⟩
  · exact ⟨db.plans, rfl⟩

theorem attempt_snd (db : Db) (m : StoreMethod) :
    (db.attempt m).2 = none ∨ ∃ k msg, (db.attempt m).2 = some (.store k msg) := by
  unfold attempt
  split
  · split
    · exact .inl rfl
    · exact .inr ⟨_, _, rfl⟩
  · exact .inl rfl

theorem plansKeep_true : PlansKeep (fun _ => True) := fun _ _ _ => trivial

theorem plansKeep_insertsPass : PlansKeep InsertsPass := by
  intro db m h q hq hqi
  unfold attempt at hq
  split at hq
  · rename_i x p hfind
    split at hq
    · exact h q hq hqi
    · rename_i hp
      obtain ⟨hmem, hx⟩ := List.find?_eq_some_iff_append.1 hfind |> fun ⟨hx, as, bs, heq, _⟩ =>
        (⟨heq ▸ List.mem_append_right _ List.mem_cons_self, hx⟩ :
          (x, p) ∈ db.plans ∧ ((x, p).1 == m) = true)
      -- the plan that fires is `m`'s, so `m` is no insert
      have hm : m ≠ .insertOne := by
        rintro rfl
        exact hp (h _ hmem (by simpa using hx))
      obtain ⟨q₀, hq₀, rfl⟩ := List.mem_map.1 hq
      split at hqi
      · exact absurd hqi hm
      · rw [if_neg (by assumption)]
        exact h q₀ hq₀ hqi
  · exact h q hq hqi

theorem attempt_insertOne (h : InsertsPass db.plans) : db.attempt .insertOne = (db, none) := by
  unfold attempt
  split
  · rename_i x p hfind
    obtain ⟨hx, as, bs, heq, -⟩ := List.find?_eq_some_iff_append.1 hfind
    have hp : p.remaining = 0 :=
      h _ (heq ▸ List.mem_append_right _ List.mem_cons_self) (by simpa using hx)
    rw [if_pos hp]
  · rfl

theorem call_eq {α : Type} (db : Db) (m : StoreMethod) (op : Collection → Except Failure α) :
    (Db.call m op db).1 = op db.coll ∨ ∃ k msg, (Db.call m op db).1 = .error (.store k msg) := by
  obtain ⟨plans, hatt⟩ := attempt_fst db m
  unfold Db.call
  rcases hA : db.attempt m with ⟨db', f⟩
  rw [hA] at hatt
  cases hatt
  rcases attempt_snd db m with hf | ⟨k, msg, hf⟩
  · rw [hA] at hf
    cases hf
    exact .inl rfl
  · rw [hA] at hf
    cases hf
    exact .inr ⟨k, msg, rfl⟩

theorem openGathering_eq (db : Db) (works : List Work) (waiter : Waiter) :
    (db.openGathering works waiter).1 =
      { db with gatherings := db.gatherings.push ⟨works.length, 0, none, waiter⟩,
                queue := db.queue ++ works.map (fun w => .step w (some db.gatherings.size)) } := by
  unfold Db.openGathering
  dsimp only
  suffices ∀ (ws : List Work) (d : Db),
      ws.foldl (fun d w => d.enqueue (.step w (some db.gatherings.size))) d =
        { d with queue := d.queue ++ ws.map (fun w => .step w (some db.gatherings.size)) } by
    rw [this]
  intro ws
  induction ws with
  | nil => exact fun d => by simp
  | cons w ws ih =>
    intro d
    rw [List.foldl_cons, ih]
    simp [Db.enqueue]

namespace OnlyReads

variable {P : List (StoreMethod × FaultPlan) → Prop}

theorem withQueue (h : db.OnlyReads P) {q : List Entry} (hq : ∀ e ∈ q, e ∈ db.queue) :
    OnlyReads P { db with queue := q } := ⟨fun e he => h.queue e (hq e he), h.plans⟩

theorem withGatherings (h : db.OnlyReads P) (gs : Array Gathering) :
    OnlyReads P { db with gatherings := gs } := ⟨h.queue, h.plans⟩

theorem withColl (h : db.OnlyReads P) (c : Collection) : OnlyReads P { db with coll := c } :=
  ⟨h.queue, h.plans⟩

theorem attempt (hP : PlansKeep P) (h : db.OnlyReads P) (m : StoreMethod) :
    (db.attempt m).1.OnlyReads P ∧ (db.attempt m).1.coll = db.coll := by
  have hplans := hP db m h.plans
  obtain ⟨plans, hatt⟩ := attempt_fst db m
  rw [hatt] at hplans ⊢
  exact ⟨⟨h.queue, hplans⟩, rfl⟩

theorem enqueue (h : db.OnlyReads P) {e : Entry} (he : e.WritesNothing) :
    (db.enqueue e).OnlyReads P := by
  refine ⟨fun e' he' => ?_, h.plans⟩
  rcases List.mem_append.1 he' with he' | he'
  · exact h.queue e' he'
  · rw [List.mem_singleton.1 he']
    exact he

theorem finish (h : db.OnlyReads P) (parent : Option Nat) (failed : Bool) :
    (db.finish parent failed).OnlyReads P ∧ (db.finish parent failed).coll = db.coll := by
  unfold Db.finish
  cases parent with
  | none => exact ⟨h, rfl⟩
  | some g => exact ⟨h.enqueue trivial, rfl⟩

theorem settle (h : db.OnlyReads P) (g : Nat) (failed : Bool) :
    (db.settle g failed).OnlyReads P ∧ (db.settle g failed).coll = db.coll := by
  unfold Db.settle
  split
  · exact ⟨h, rfl⟩
  · dsimp only
    split
    · exact ⟨h.withGatherings _, rfl⟩
    · unfold Db.wake
      split
      · exact ⟨(h.withGatherings _).enqueue trivial, rfl⟩
      · exact ⟨(h.withGatherings _).enqueue trivial, rfl⟩

theorem openGathering (h : db.OnlyReads P) {works : List Work}
    (hw : ∀ w ∈ works, w.WritesNothing) (waiter : Waiter) :
    (db.openGathering works waiter).1.OnlyReads P ∧
      (db.openGathering works waiter).1.coll = db.coll := by
  rw [openGathering_eq]
  refine ⟨⟨fun e he => ?_, h.plans⟩, rfl⟩
  rcases List.mem_append.1 he with he | he
  · exact h.queue e he
  · obtain ⟨w, hw', rfl⟩ := List.mem_map.1 he
    exact hw w hw'

theorem runWork (hP : PlansKeep P) (h : db.OnlyReads P) (parent : Option Nat) {w : Work}
    (hw : w.WritesNothing) :
    (db.runWork parent w).OnlyReads P ∧ (db.runWork parent w).coll = db.coll := by
  unfold Db.runWork
  cases w with
  | read job again =>
    obtain ⟨hs, hc⟩ := h.attempt hP job.method
    dsimp only
    rcases hA : db.attempt job.method with ⟨db', f⟩
    rw [hA] at hs hc
    dsimp only at hs hc
    cases f with
    | some f =>
      dsimp only
      split
      · exact ⟨hs.enqueue trivial, hc⟩
      · exact (hs.finish parent true).imp_right fun h' => h'.trans hc
    | none => exact (hs.finish parent _).imp_right fun h' => h'.trans hc
  | fanOut jobs check =>
    exact h.openGathering (fun w hw => by
      obtain ⟨j, -, rfl⟩ := List.mem_map.1 hw
      trivial) _
  | resume g check => exact h.finish parent _
  | write m op => exact hw.elim

/-- Every step the scheduler runs keeps the work in flight reading and the collection as it
is. -/
theorem runFront (hP : PlansKeep P) (h : db.OnlyReads P) {db' : Db} (hrun : db.runFront = some db') :
    db'.OnlyReads P ∧ db'.coll = db.coll := by
  obtain ⟨g, failed, rest, hq, rfl⟩ | ⟨w, parent, rest, hq, rfl⟩ := runFront_eq_some hrun
  · exact (h.withQueue (q := rest) fun e he => by simp [hq, he]).settle g failed
  · have hw : w.WritesNothing := h.queue (.step w parent) (by simp [hq])
    exact (h.withQueue (q := rest) fun e he => by simp [hq, he]).runWork hP parent hw

theorem stepInvariant (hP : PlansKeep P) (c : Collection) :
    StepInvariant fun d => d.OnlyReads P ∧ d.coll = c := by
  constructor
  · intro d d' hd hrun
    obtain ⟨hs, hcoll⟩ := hd.1.runFront hP hrun
    exact ⟨hs, hcoll.trans hd.2⟩
  · intro d q hd hq
    exact ⟨hd.1.withQueue hq, hd.2⟩

theorem runUntilMain (hP : PlansKeep P) (fuel : Nat) :
    ∀ {db : Db}, db.OnlyReads P → (Db.runUntilMain fuel db).OnlyReads P ∧
      (Db.runUntilMain fuel db).coll = db.coll :=
  fun h => (stepInvariant hP _).runUntilMain fuel ⟨h, rfl⟩

theorem runAll (hP : PlansKeep P) (fuel : Nat) :
    ∀ {db : Db}, db.OnlyReads P → (Db.runAll fuel db).OnlyReads P ∧
      (Db.runAll fuel db).coll = db.coll :=
  fun h => (stepInvariant hP _).runAll fuel ⟨h, rfl⟩

theorem pause (hP : PlansKeep P) (h : db.OnlyReads P) :
    db.pause.OnlyReads P ∧ db.pause.coll = db.coll :=
  runUntilMain hP _ (h.enqueue trivial)

theorem settleAll (hP : PlansKeep P) (h : db.OnlyReads P) :
    db.settleAll.OnlyReads P ∧ db.settleAll.coll = db.coll :=
  runAll hP _ h

theorem call {α : Type} (hP : PlansKeep P) (h : db.OnlyReads P) (m : StoreMethod)
    (op : Collection → Except Failure α) :
    (Db.call m op db).2.OnlyReads P ∧ (Db.call m op db).2.coll = db.coll := by
  obtain ⟨hs, hc⟩ := h.attempt hP m
  unfold Db.call
  rcases hA : db.attempt m with ⟨db', f⟩
  rw [hA] at hs hc
  cases f <;> exact ⟨hs, hc⟩

theorem read {α : Type} (hP : PlansKeep P) (h : db.OnlyReads P) (m : StoreMethod)
    (op : Collection → Except Failure α) :
    (Db.read m op db).2.OnlyReads P ∧ (Db.read m op db).2.coll = db.coll := by
  obtain ⟨hs, hc⟩ := h.call hP m op
  unfold Db.read
  rw [bind_apply]
  rcases hC : Db.call m op db with ⟨r, db'⟩
  rw [hC] at hs hc
  dsimp only at hs hc ⊢
  split
  · split
    · -- the second try, after giving way
      obtain ⟨hs', hc'⟩ := hs.pause hP
      obtain ⟨hs'', hc''⟩ := hs'.call hP m op
      exact ⟨hs'', hc''.trans (hc'.trans hc)⟩
    · exact ⟨hs, hc⟩
  · exact ⟨hs, hc⟩

/-- A read, tried again after giving way, answers what the operation answers on the
collection, or fails with a planned fault: the work that runs in between leaves the collection
as it is. -/
theorem read_eq {α : Type} (hP : PlansKeep P) (h : db.OnlyReads P) (m : StoreMethod)
    (op : Collection → Except Failure α) :
    (Db.read m op db).1 = op db.coll ∨ ∃ k msg, (Db.read m op db).1 = .error (.store k msg) := by
  obtain ⟨hs, hc⟩ := h.call hP m op
  have hfirst := call_eq db m op
  unfold Db.read
  rw [bind_apply]
  rcases hC : Db.call m op db with ⟨r, db'⟩
  rw [hC] at hs hc hfirst
  dsimp only at hs hc hfirst ⊢
  split
  · split
    · -- the second try, after giving way, sees the same collection
      have hpause := (hs.pause hP).2
      rw [bind_apply]
      dsimp only [modify, modifyGet, MonadStateOf.modifyGet, StateT.modifyGet]
      have hsecond := call_eq db'.pause m op
      rwa [hpause, hc] at hsecond
    · exact hfirst
  · exact hfirst

theorem gather (hP : PlansKeep P) (h : db.OnlyReads P) {works : List Work}
    (hw : ∀ w ∈ works, w.WritesNothing) :
    (Db.gather works db).2.OnlyReads P ∧ (Db.gather works db).2.coll = db.coll := by
  obtain ⟨hs, hc⟩ := h.openGathering hw .main
  obtain ⟨hs', hc'⟩ := runUntilMain hP (db.openGathering works .main).1.fuel hs
  exact ⟨hs', hc'.trans hc⟩

theorem write {α : Type} (hP : PlansKeep P) (h : db.OnlyReads P) (m : StoreMethod)
    (op : Collection → Collection × Except Failure α) :
    (Db.write m op db).2.OnlyReads P ∧
      ((Db.write m op db).2.coll = db.coll ∨ (Db.write m op db).2.coll = (op db.coll).1) := by
  obtain ⟨hs, hc⟩ := h.attempt hP m
  unfold Db.write
  rcases hA : db.attempt m with ⟨db', f⟩
  rw [hA] at hs hc
  cases f with
  | some f => exact ⟨hs, .inl hc⟩
  | none => exact ⟨hs.withColl _, .inr (by rw [← hc])⟩

end OnlyReads

namespace Steady

theorem onlyReads (h : db.Steady) : db.OnlyReads InsertsPass := ⟨h.queue, h.inserts⟩

theorem ofOnlyReads (h : db.OnlyReads InsertsPass) : db.Steady := ⟨h.queue, h.plans⟩

theorem read {α : Type} (h : db.Steady) (m : StoreMethod) (op : Collection → Except Failure α) :
    (Db.read m op db).2.Steady ∧ (Db.read m op db).2.coll = db.coll :=
  (h.onlyReads.read plansKeep_insertsPass m op).imp_left ofOnlyReads

theorem gather (h : db.Steady) {works : List Work} (hw : ∀ w ∈ works, w.WritesNothing) :
    (Db.gather works db).2.Steady ∧ (Db.gather works db).2.coll = db.coll :=
  (h.onlyReads.gather plansKeep_insertsPass hw).imp_left ofOnlyReads

theorem write {α : Type} (h : db.Steady) (m : StoreMethod)
    (op : Collection → Collection × Except Failure α) :
    (Db.write m op db).2.Steady ∧
      ((Db.write m op db).2.coll = db.coll ∨ (Db.write m op db).2.coll = (op db.coll).1) :=
  (h.onlyReads.write plansKeep_insertsPass m op).imp_left ofOnlyReads

end Steady

theorem write_insertOne {α : Type} (h : InsertsPass db.plans)
    (op : Collection → Collection × Except Failure α) :
    write .insertOne op db = ((op db.coll).2, { db with coll := (op db.coll).1 }) := by
  unfold Db.write
  rw [attempt_insertOne h]

end Db

end AuditTrail
