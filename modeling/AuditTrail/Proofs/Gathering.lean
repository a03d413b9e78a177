import Mathlib
import AuditTrail.Store.Db

/-!
# Gatherings on a calm store

On a quiet store, or one whose faults are transient and planned once per method, a gathering of
reads whose checks pass ends well. The argument is the invariant `Db.Calm`, kept by every step.
-/

namespace AuditTrail

namespace Db

def NoFault (plans : List (StoreMethod × FaultPlan)) : Prop :=
  ∀ m p, plans.find? (·.1 == m) = some p → p.2.remaining = 0

def Spent (plans : List (StoreMethod × FaultPlan)) (m : StoreMethod) : Prop :=
  ∀ p, plans.find? (·.1 == m) = some p → p.2.remaining = 0

/-- Every planned fault is transient, and each method has at most one. -/
def Retryable (plans : List (StoreMethod × FaultPlan)) : Prop :=
  ∀ m p, plans.find? (·.1 == m) = some p → p.2.remaining ≤ 1 ∧
    (p.2.remaining ≠ 0 → p.2.kind.isTransient = true)

theorem NoFault.spent {plans : List (StoreMethod × FaultPlan)} (h : NoFault plans)
    (m : StoreMethod) : Spent plans m :=
  h m

theorem NoFault.retryable {plans : List (StoreMethod × FaultPlan)} (h : NoFault plans) :
    Retryable plans := fun m p hp => by simp [h m p hp]

theorem attempt_of_spent {db : Db} {m : StoreMethod} (h : Spent db.plans m) :
    db.attempt m = (db, none) := by
  unfold attempt
  cases hf : db.plans.find? (·.1 == m) with
  | none => rfl
  | some p => simp [h p hf]

theorem attempt_eq {db : Db} (h : NoFault db.plans) (m : StoreMethod) :
    db.attempt m = (db, none) :=
  attempt_of_spent (h.spent m)

theorem find?_map_plans (plans : List (StoreMethod × FaultPlan)) (m m' : StoreMethod)
    (p' : FaultPlan) :
    (plans.map fun q => if q.1 == m then (m, p') else q).find? (·.1 == m') =
      if m' = m then (plans.find? (·.1 == m)).map fun _ => (m, p')
      else plans.find? (·.1 == m') := by
  rw [List.find?_map]
  have hkeys : ((·.1 == m') ∘ fun q : StoreMethod × FaultPlan => if q.1 == m then (m, p') else q) =
      (·.1 == m') := by
    funext q
    by_cases hq : q.1 = m <;> simp [hq]
  rw [hkeys]
  by_cases hm : m' = m
  · subst hm
    rw [if_pos rfl]
    cases hf : plans.find? (·.1 == m') with
    | none => rfl
    | some q =>
      have hq : q.1 = m' := by simpa using List.find?_some hf
      simp [hq]
  · rw [if_neg hm]
    cases hf : plans.find? (·.1 == m') with
    | none => rfl
    | some q =>
      have hq : q.1 = m' := by simpa using List.find?_some hf
      have hqm : q.1 ≠ m := hq ▸ hm
      simp [hqm]

theorem attempt_retryable {db : Db} (h : Retryable db.plans) {m : StoreMethod}
    (hm : ¬ Spent db.plans m) :
    ∃ k msg plans, db.attempt m = ({ db with plans }, some (.store k msg)) ∧ k.isTransient ∧
      Retryable plans ∧ Spent plans m ∧ ∀ m', Spent db.plans m' → Spent plans m' := by
  obtain ⟨p, hf, hp⟩ : ∃ p, db.plans.find? (·.1 == m) = some p ∧ p.2.remaining ≠ 0 := by
    simp only [Spent, not_forall] at hm
    obtain ⟨p, hf, hp⟩ := hm
    exact ⟨p, hf, hp⟩
  obtain ⟨hle, htr⟩ := h m p hf
  unfold attempt
  rw [hf]
  dsimp only
  rw [if_neg hp]
  refine ⟨_, _, _, rfl, htr hp, ?_, ?_, ?_⟩
  · -- the spent plan has no fault left; the others are as they were
    intro m' q hq
    rw [find?_map_plans] at hq
    split at hq
    · simp only [hf, Option.map_some, Option.some.injEq] at hq
      subst hq
      exact ⟨by simp only; omega, fun _ => htr hp⟩
    · exact h m' q hq
  · intro q hq
    rw [find?_map_plans, if_pos rfl, hf] at hq
    simp only [Option.map_some, Option.some.injEq] at hq
    subst hq
    simp only
    omega
  · intro m' hs q hq
    rw [find?_map_plans] at hq
    split at hq
    · simp only [hf, Option.map_some, Option.some.injEq] at hq
      subst hq
      simp only
      omega
    · exact hs q hq

theorem runFront_eq_some {db db' : Db} (h : db.runFront = some db') :
    (∃ g failed rest, db.queue = .settle g failed :: rest ∧
      db' = { db with queue := rest }.settle g failed) ∨
    ∃ w parent rest, db.queue = .step w parent :: rest ∧
      db' = { db with queue := rest }.runWork parent w := by
  unfold runFront at h
  split at h
  · cases h
  · cases h
  · exact .inl ⟨_, _, _, ‹_›, (Option.some.inj h).symm⟩
  · exact .inr ⟨_, _, _, ‹_›, (Option.some.inj h).symm⟩

/-- A property of the store that every step of the scheduler keeps, and that taking entries off
the queue keeps: it then holds however long the scheduler runs. -/
structure StepInvariant (Q : Db → Prop) : Prop where
  runFront : ∀ {d d' : Db}, Q d → d.runFront = some d' → Q d'
  withQueue : ∀ {d : Db} {q : List Entry}, Q d → (∀ e ∈ q, e ∈ d.queue) → Q { d with queue := q }

namespace StepInvariant

variable {Q : Db → Prop}

theorem runUntilMain (hQ : StepInvariant Q) (fuel : Nat) :
    ∀ {db : Db}, Q db → Q (Db.runUntilMain fuel db) := by
  induction fuel with
  | zero => exact fun h => h
  | succ fuel ih =>
    intro db h
    unfold Db.runUntilMain
    cases hrun : db.runFront with
    | some db' => exact ih (hQ.runFront h hrun)
    | none => exact hQ.withQueue h fun e he => List.mem_of_mem_drop he

theorem runAll (hQ : StepInvariant Q) (fuel : Nat) : ∀ {db : Db}, Q db → Q (Db.runAll fuel db) := by
  induction fuel with
  | zero => exact fun h => h
  | succ fuel ih =>
    intro db h
    unfold Db.runAll
    cases hrun : db.runFront with
    | some db' => exact ih (hQ.runFront h hrun)
    | none =>
      dsimp only
      split
      · exact h
      · rename_i e rest hq
        exact ih (hQ.withQueue h fun e' he' => by simp [hq, he'])

end StepInvariant

def WorkPasses (c : Collection) : Work → Prop
  | .read job _ => job.check c = none
  | .fanOut jobs check => (∀ j ∈ jobs, j.check c = none) ∧ check c = none
  | .resume _ _ => False
  | .write _ _ => False

def ParentAfter (mark : Nat) : Option Nat → Prop
  | some g => mark ≤ g
  | none => True

def EntryCalm (mark : Nat) (c : Collection) : Entry → Prop
  | .step (.resume g check) parent => mark ≤ g ∧ check c = none ∧ ParentAfter mark parent
  | .step w parent => WorkPasses c w ∧ ParentAfter mark parent
  | .settle g failed => mark ≤ g ∧ failed = false
  | .resumeMain => True

def WaiterCalm (mark : Nat) (c : Collection) : Waiter → Prop
  | .main => True
  | .task check parent => check c = none ∧ ParentAfter mark parent

end Db

def Work.SpentFor (plans : List (StoreMethod × FaultPlan)) : Work → Prop
  | .read job true => Db.Spent plans job.method
  | _ => True

def Entry.SpentFor (plans : List (StoreMethod × FaultPlan)) : Entry → Prop
  | .step w _ => w.SpentFor plans
  | _ => True

theorem Work.spentFor_of_noFault {plans : List (StoreMethod × FaultPlan)} (h : Db.NoFault plans)
    (w : Work) : w.SpentFor plans := by
  cases w with
  | read job again => cases again <;> simp [Work.SpentFor, h.spent job.method]
  | _ => trivial

theorem Entry.SpentFor.mono {plans plans' : List (StoreMethod × FaultPlan)}
    (hmono : ∀ m, Db.Spent plans m → Db.Spent plans' m) {e : Entry} (h : e.SpentFor plans) :
    e.SpentFor plans' := by
  cases e with
  | step w parent =>
    cases w with
    | read job again => cases again <;> simp_all [Entry.SpentFor, Work.SpentFor]
    | _ => trivial
  | _ => trivial

namespace Db

/-- The scheduler's state cannot fail any gathering opened at or after `mark`. -/
structure Calm (mark : Nat) (c : Collection) (db : Db) : Prop where
  coll : db.coll = c
  plans : Retryable db.plans
  mark_le : mark ≤ db.gatherings.size
  queue : ∀ e ∈ db.queue, EntryCalm mark c e
  retries : ∀ e ∈ db.queue, e.SpentFor db.plans
  gatherings : ∀ g x, mark ≤ g → db.gatherings[g]? = some x →
    x.outcome ≠ some true ∧ WaiterCalm mark c x.waiter

namespace Calm

variable {mark : Nat} {c : Collection} {db : Db}

theorem failedGathering_eq (h : Calm mark c db) {g : Nat} (hg : mark ≤ g) :
    db.failedGathering g = false := by
  unfold failedGathering
  cases hx : db.gatherings[g]? with
  | none => rfl
  | some x => simpa using (h.gatherings g x hg hx).1

theorem enqueue (h : Calm mark c db) {e : Entry} (he : EntryCalm mark c e)
    (hs : e.SpentFor db.plans) : Calm mark c (db.enqueue e) where
  coll := h.coll
  plans := h.plans
  mark_le := h.mark_le
  queue e' he' := by
    rcases List.mem_append.1 he' with he' | he'
    · exact h.queue e' he'
    · rw [List.mem_singleton.1 he']
      exact he
  retries e' he' := by
    rcases List.mem_append.1 he' with he' | he'
    · exact h.retries e' he'
    · rw [List.mem_singleton.1 he']
      exact hs
  gatherings := h.gatherings

theorem finish (h : Calm mark c db) {parent : Option Nat} (hp : ParentAfter mark parent) :
    Calm mark c (db.finish parent false) := by
  unfold Db.finish
  cases parent with
  | none => exact h
  | some g => exact h.enqueue ⟨hp, rfl⟩ trivial

theorem withQueue (h : Calm mark c db) {q : List Entry} (hq : ∀ e ∈ q, e ∈ db.queue) :
    Calm mark c { db with queue := q } :=
  ⟨h.coll, h.plans, h.mark_le, fun e he => h.queue e (hq e he),
    fun e he => h.retries e (hq e he), h.gatherings⟩

theorem settle (h : Calm mark c db) {g : Nat} (hg : mark ≤ g) :
    Calm mark c (db.settle g false) := by
  unfold Db.settle
  cases hx : db.gatherings[g]? with
  | none => exact h
  | some x =>
    obtain ⟨size, ended, outcome, waiter⟩ := x
    obtain ⟨hout, hwait⟩ := h.gatherings g _ hg hx
    have hset : ∀ y : Gathering, y.outcome ≠ some true → y.waiter = waiter →
        Calm mark c { db with gatherings := db.gatherings.setIfInBounds g y } := by
      intro y hy hyw
      refine ⟨h.coll, h.plans, by simpa using h.mark_le, h.queue, h.retries,
        fun g' x' hg' hx' => ?_⟩
      rw [Array.getElem?_setIfInBounds] at hx'
      by_cases hgg : g = g'
      · rw [if_pos hgg] at hx'
        by_cases hb : g < db.gatherings.size
        · rw [if_pos hb] at hx'
          cases hx'
          exact ⟨hy, hyw ▸ hwait⟩
        · rw [if_neg hb] at hx'
          cases hx'
      · rw [if_neg hgg] at hx'
        exact h.gatherings g' x' hg' hx'
    dsimp only
    split
    · exact hset _ (by simpa using hout) rfl
    · rename_i f hend
      have hf : f = false := by
        simp only [Bool.false_eq_true, if_false] at hend
        split at hend <;> simp_all
      subst hf
      have hcalm := hset ⟨size, ended + 1, some false, waiter⟩ (by simp) rfl
      unfold Db.wake
      cases waiter with
      | main => exact hcalm.enqueue (e := .resumeMain) trivial trivial
      | task check parent =>
        exact hcalm.enqueue (e := .step (.resume g check) parent) ⟨hg, hwait.1, hwait.2⟩ trivial

theorem openGathering (h : Calm mark c db) {works : List Work}
    (hworks : ∀ w ∈ works, WorkPasses c w) (hspent : ∀ w ∈ works, w.SpentFor db.plans)
    {waiter : Waiter} (hw : WaiterCalm mark c waiter) :
    Calm mark c (db.openGathering works waiter).1 := by
  unfold Db.openGathering
  dsimp only
  have hopen : Calm mark c
      { db with gatherings := db.gatherings.push ⟨works.length, 0, none, waiter⟩ } := by
    refine ⟨h.coll, h.plans, by simpa using Nat.le_succ_of_le h.mark_le, h.queue, h.retries,
      fun g x hg hx => ?_⟩
    rw [Array.getElem?_push] at hx
    split at hx
    · cases hx
      exact ⟨by simp, hw⟩
    · exact h.gatherings g x hg hx
  suffices ∀ (ws : List Work) (d : Db), (∀ w ∈ ws, WorkPasses c w) →
      (∀ w ∈ ws, w.SpentFor d.plans) → Calm mark c d → mark ≤ db.gatherings.size →
      Calm mark c (ws.foldl (fun d w => d.enqueue (.step w (some db.gatherings.size))) d) from
    this works _ hworks hspent hopen h.mark_le
  intro ws
  induction ws with
  | nil => exact fun d _ _ hd _ => hd
  | cons w ws ih =>
    intro d hws hsp hd hmark
    refine ih _ (fun w' hw' => hws w' (by simp [hw'])) (fun w' hw' => hsp w' (by simp [hw']))
      (hd.enqueue ?_ (hsp w (by simp))) hmark
    have hpass := hws w (by simp)
    cases w with
    | resume => exact hpass.elim
    | write => exact hpass.elim
    | read => exact ⟨hpass, hmark⟩
    | fanOut => exact ⟨hpass, hmark⟩

/-- A read step keeps the state calm: it answers, or meets the one transient fault of its
method and queues its second try, which will find that fault spent. -/
theorem runRead (h : Calm mark c db) {job : ReadJob} {again : Bool} {parent : Option Nat}
    (hcheck : job.check c = none) (hp : ParentAfter mark parent)
    (hs : (Entry.step (.read job again) parent).SpentFor db.plans) :
    Calm mark c (db.runWork parent (.read job again)) := by
  unfold Db.runWork
  dsimp only
  by_cases hm : Spent db.plans job.method
  · rw [attempt_of_spent hm]
    dsimp only
    rw [show job.check db.coll = none from h.coll ▸ hcheck]
    exact h.finish hp
  · obtain ⟨k, msg, plans, hatt, hk, hplans, hspent, hmono⟩ := attempt_retryable h.plans hm
    -- a second try would have found the fault spent, so this is a first try
    have hagain : again = false := by
      cases again
      · rfl
      · exact absurd hs hm
    subst hagain
    rw [hatt]
    simp only [transient, hk, Bool.not_false, Bool.and_self, if_true]
    have hcalm : Calm mark c { db with plans } :=
      ⟨h.coll, hplans, h.mark_le, h.queue, fun e he => (h.retries e he).mono hmono,
        h.gatherings⟩
    exact hcalm.enqueue ⟨hcheck, hp⟩ hspent

theorem runFront (h : Calm mark c db) {db' : Db} (hrun : db.runFront = some db') :
    Calm mark c db' := by
  obtain ⟨g, failed, rest, hq, rfl⟩ | ⟨w, parent, rest, hq, rfl⟩ := runFront_eq_some hrun
  · have he := h.queue (.settle g failed) (by simp [hq])
    obtain ⟨hg, rfl⟩ := he
    exact (h.withQueue fun e he => by simp [hq, he]).settle hg
  · have he := h.queue (.step w parent) (by simp [hq])
    have hs := h.retries (.step w parent) (by simp [hq])
    have hrest := h.withQueue (q := rest) fun e he => by simp [hq, he]
    cases w with
    | read job again =>
      obtain ⟨hcheck, hp⟩ := he
      exact hrest.runRead hcheck hp hs
    | fanOut jobs check =>
      obtain ⟨⟨hjobs, hcheck⟩, hp⟩ := he
      unfold Db.runWork
      dsimp only
      exact hrest.openGathering (fun w hw => by
        obtain ⟨j, hj, rfl⟩ := List.mem_map.1 hw
        exact hjobs j hj) (fun w hw => by
        obtain ⟨j, -, rfl⟩ := List.mem_map.1 hw
        trivial) ⟨hcheck, hp⟩
    | resume g check =>
      obtain ⟨hg, hcheck, hp⟩ := he
      unfold Db.runWork
      dsimp only
      rw [hrest.failedGathering_eq hg, show check db.coll = none from h.coll ▸ hcheck]
      exact hrest.finish hp
    | write m op => exact he.1.elim

theorem stepInvariant : StepInvariant (Calm mark c) :=
  ⟨fun h hrun => h.runFront hrun, fun h hq => h.withQueue hq⟩

theorem runUntilMain (fuel : Nat) : ∀ {db : Db}, Calm mark c db → Calm mark c (Db.runUntilMain fuel db) :=
  stepInvariant.runUntilMain fuel

end Calm

/-- A quiet store: no planned fault fires and no work is in flight. -/
structure Quiet (db : Db) : Prop where
  noFault : NoFault db.plans
  idle : db.queue = []

/-- With nothing in flight and retryable plans, a gathering of first tries of reads whose checks
pass ends well and leaves the collection as it was. -/
theorem gather_retryable {db : Db} (hidle : db.queue = []) (hplans : Retryable db.plans)
    {works : List Work} (hworks : ∀ w ∈ works, WorkPasses db.coll w)
    (hspent : ∀ w ∈ works, w.SpentFor db.plans) :
    (gather works db).1 = false ∧ (gather works db).2.coll = db.coll := by
  have h₀ : Calm db.gatherings.size db.coll db :=
    ⟨rfl, hplans, Nat.le_refl _, by simp [hidle], by simp [hidle], fun g x hg hx => by
      rw [Array.getElem?_eq_none (by omega)] at hx
      cases hx⟩
  have h₁ := (h₀.openGathering hworks hspent (show WaiterCalm _ _ .main from trivial)).runUntilMain
    (db.openGathering works .main).1.fuel
  exact ⟨h₁.failedGathering_eq (by simp), h₁.coll⟩

theorem gather_quiet {db : Db} (hq : db.Quiet) {works : List Work}
    (hworks : ∀ w ∈ works, WorkPasses db.coll w) :
    (gather works db).1 = false ∧ (gather works db).2.coll = db.coll :=
  gather_retryable hq.idle hq.noFault.retryable hworks fun w _ =>
    Work.spentFor_of_noFault hq.noFault w

end Db

end AuditTrail
