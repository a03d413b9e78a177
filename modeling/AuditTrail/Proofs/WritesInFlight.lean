import AuditTrail.Proofs.ReadOnlyWork

/-!
# Work in flight that keeps a property of the collection

`Db.Holds Inv`: the collection has `Inv` and every write in flight keeps it. Every step keeps
this, and a read answers on some collection with `Inv` (`Db.Holds.read_answer`).
-/

namespace AuditTrail

/-- A task that keeps a property of the collection: a write whose operation keeps it, or any
other task, which writes nothing. -/
def Work.Keeps (Inv : Collection → Prop) : Work → Prop
  | .write _ op => ∀ c, Inv c → Inv (op c)
  | _ => True

def Entry.Keeps (Inv : Collection → Prop) : Entry → Prop
  | .step w _ => w.Keeps Inv
  | _ => True

namespace Db

/-- The collection has property `Inv`, and every write in flight keeps it. -/
structure Holds (Inv : Collection → Prop) (db : Db) : Prop where
  coll : Inv db.coll
  queue : ∀ e ∈ db.queue, e.Keeps Inv

namespace Holds

variable {Inv : Collection → Prop} {db : Db}

theorem withQueue (h : db.Holds Inv) {q : List Entry} (hq : ∀ e ∈ q, e ∈ db.queue) :
    Holds Inv { db with queue := q } := ⟨h.coll, fun e he => h.queue e (hq e he)⟩

theorem withGatherings (h : db.Holds Inv) (gs : Array Gathering) :
    Holds Inv { db with gatherings := gs } := ⟨h.coll, h.queue⟩

theorem attempt (h : db.Holds Inv) (m : StoreMethod) : (db.attempt m).1.Holds Inv := by
  obtain ⟨plans, hatt⟩ := attempt_fst db m
  rw [hatt]
  exact ⟨h.coll, h.queue⟩

theorem enqueue (h : db.Holds Inv) {e : Entry} (he : e.Keeps Inv) : (db.enqueue e).Holds Inv := by
  refine ⟨h.coll, fun e' he' => ?_⟩
  rcases List.mem_append.1 he' with he' | he'
  · exact h.queue e' he'
  · rw [List.mem_singleton.1 he']
    exact he

theorem finish (h : db.Holds Inv) (parent : Option Nat) (failed : Bool) :
    (db.finish parent failed).Holds Inv := by
  unfold Db.finish
  cases parent with
  | none => exact h
  | some g => exact h.enqueue trivial

theorem settle (h : db.Holds Inv) (g : Nat) (failed : Bool) : (db.settle g failed).Holds Inv := by
  unfold Db.settle
  split
  · exact h
  · dsimp only
    split
    · exact h.withGatherings _
    · unfold Db.wake
      split
      · exact (h.withGatherings _).enqueue trivial
      · exact (h.withGatherings _).enqueue trivial

theorem openGathering (h : db.Holds Inv) {works : List Work} (hw : ∀ w ∈ works, w.Keeps Inv)
    (waiter : Waiter) : (db.openGathering works waiter).1.Holds Inv := by
  rw [openGathering_eq]
  refine ⟨h.coll, fun e he => ?_⟩
  rcases List.mem_append.1 he with he | he
  · exact h.queue e he
  · obtain ⟨w, hw', rfl⟩ := List.mem_map.1 he
    exact hw w hw'

theorem runWork (h : db.Holds Inv) (parent : Option Nat) {w : Work} (hw : w.Keeps Inv) :
    (db.runWork parent w).Holds Inv := by
  unfold Db.runWork
  cases w with
  | read job again =>
    have hs := h.attempt job.method
    dsimp only
    rcases hA : db.attempt job.method with ⟨db', f⟩
    rw [hA] at hs
    cases f with
    | some f =>
      dsimp only
      split
      · exact hs.enqueue trivial
      · exact hs.finish parent true
    | none => exact hs.finish parent _
  | fanOut jobs check =>
    exact h.openGathering (fun w hw => by
      obtain ⟨j, -, rfl⟩ := List.mem_map.1 hw
      trivial) _
  | resume g check => exact h.finish parent _
  | write m op =>
    have hs := h.attempt m
    dsimp only
    rcases hA : db.attempt m with ⟨db', f⟩
    rw [hA] at hs
    cases f with
    | some f => exact hs.finish parent false
    | none =>
      exact (show Holds Inv { db' with coll := op db'.coll } from
        ⟨hw _ hs.coll, hs.queue⟩).finish parent false

theorem runFront (h : db.Holds Inv) {db' : Db} (hrun : db.runFront = some db') : db'.Holds Inv := by
  obtain ⟨g, failed, rest, hq, rfl⟩ | ⟨w, parent, rest, hq, rfl⟩ := runFront_eq_some hrun
  · exact (h.withQueue (q := rest) fun e he => by simp [hq, he]).settle g failed
  · have hw : w.Keeps Inv := h.queue (.step w parent) (by simp [hq])
    exact (h.withQueue (q := rest) fun e he => by simp [hq, he]).runWork parent hw

theorem stepInvariant : StepInvariant (Holds Inv) :=
  ⟨fun h hrun => h.runFront hrun, fun h hq => h.withQueue hq⟩

theorem runUntilMain (fuel : Nat) : ∀ {db : Db}, db.Holds Inv → (Db.runUntilMain fuel db).Holds Inv :=
  stepInvariant.runUntilMain fuel

theorem runAll (fuel : Nat) : ∀ {db : Db}, db.Holds Inv → (Db.runAll fuel db).Holds Inv :=
  stepInvariant.runAll fuel

theorem pause (h : db.Holds Inv) : db.pause.Holds Inv := runUntilMain _ (h.enqueue trivial)

theorem settleAll (h : db.Holds Inv) : db.settleAll.Holds Inv := runAll _ h

theorem call {α : Type} (h : db.Holds Inv) (m : StoreMethod) (op : Collection → Except Failure α) :
    (Db.call m op db).2.Holds Inv ∧ (Db.call m op db).2.coll = db.coll := by
  have hs := h.attempt m
  obtain ⟨plans, hatt⟩ := attempt_fst db m
  unfold Db.call
  rcases hA : db.attempt m with ⟨db', f⟩
  rw [hA] at hs hatt
  cases hatt
  cases f <;> exact ⟨hs, rfl⟩

theorem read {α : Type} (h : db.Holds Inv) (m : StoreMethod) (op : Collection → Except Failure α) :
    (Db.read m op db).2.Holds Inv := by
  have hs := (h.call m op).1
  unfold Db.read
  rw [bind_apply]
  rcases hC : Db.call m op db with ⟨r, db'⟩
  rw [hC] at hs
  dsimp only at hs ⊢
  split
  · split
    · exact (hs.pause.call m op).1
    · exact hs
  · exact hs

/-- A read answers what its operation answers on a collection with the property, the one it
first saw or the one the work run meanwhile left, or fails with a planned fault. -/
theorem read_answer {α : Type} (h : db.Holds Inv) (m : StoreMethod)
    (op : Collection → Except Failure α) :
    ∃ c, Inv c ∧ ((Db.read m op db).1 = op c ∨ ∃ k msg, (Db.read m op db).1 = .error (.store k msg)) := by
  have hs := (h.call m op).1
  have hfirst := call_eq db m op
  unfold Db.read
  rw [bind_apply]
  rcases hC : Db.call m op db with ⟨r, db'⟩
  rw [hC] at hs hfirst
  dsimp only at hs hfirst ⊢
  split
  · split
    · -- the second try sees the collection the work run meanwhile left
      rw [bind_apply]
      dsimp only [modify, modifyGet, MonadStateOf.modifyGet, StateT.modifyGet]
      exact ⟨_, hs.pause.coll, call_eq db'.pause m op⟩
    · exact ⟨db.coll, h.coll, hfirst⟩
  · exact ⟨db.coll, h.coll, hfirst⟩

theorem gather (h : db.Holds Inv) {works : List Work} (hw : ∀ w ∈ works, w.Keeps Inv) :
    (Db.gather works db).2.Holds Inv :=
  runUntilMain _ (h.openGathering hw .main)

theorem write {α : Type} (h : db.Holds Inv) (m : StoreMethod)
    {op : Collection → Collection × Except Failure α} (hop : ∀ c, Inv c → Inv (op c).1) :
    (Db.write m op db).2.Holds Inv := by
  have hs := h.attempt m
  unfold Db.write
  rcases hA : db.attempt m with ⟨db', f⟩
  rw [hA] at hs
  cases f with
  | some f => exact hs
  | none => exact ⟨hop _ hs.coll, hs.queue⟩

end Holds

end Db

end AuditTrail
