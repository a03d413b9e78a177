import AuditTrail.Proofs.ReadOnlyWork

/-!
# The scheduler's fuel suffices

Every step lowers the potential of the queue (`Db.potential`) and keeps the nested shape
(`Db.Nested`), so draining empties the queue and a wait of the main line ends where no task can
run.
-/

namespace AuditTrail

def Waiter.cost : Waiter → Nat
  | .task _ (some _) => 3
  | _ => 1

def Waiter.refs : Waiter → List Nat
  | .task _ (some g) => [g]
  | _ => []

def Entry.refs : Entry → List Nat
  | .step _ (some g) => [g]
  | .settle g _ => [g]
  | .step _ none => []
  | .resumeMain => []

namespace Db

def waiterAt (gs : Array Gathering) (g : Nat) : Option Waiter := (gs[g]?).map (·.waiter)

def settleCost (W : Nat → Option Waiter) (g : Nat) : Nat :=
  match W g with
  | some w => 1 + w.cost
  | none => 1

def finishCost (W : Nat → Option Waiter) : Option Nat → Nat
  | some g => settleCost W g
  | none => 0

end Db

open Db in
/-- The steps an entry takes with everything it starts, at most. -/
def Entry.cost (W : Nat → Option Waiter) : Entry → Nat
  | .step (.read _ again) p => (if again then 1 else 2) + finishCost W p
  | .step (.fanOut jobs check) p => 1 + jobs.length * (3 + (Waiter.task check p).cost)
  | .step (.resume _ _) p => 1 + finishCost W p
  | .step (.write _ _) p => 1 + finishCost W p
  | .settle g _ => settleCost W g
  | .resumeMain => 1

namespace Db

def costOf (W : Nat → Option Waiter) : List Entry → Nat
  | [] => 0
  | e :: es => e.cost W + costOf W es

/-- What the work in flight can still cost. -/
def potential (db : Db) : Nat := costOf (waiterAt db.gatherings) db.queue

def ShallowAt (W : Nat → Option Waiter) (p : Nat) : Prop := ∀ w, W p = some w → w.refs = []

/-- The shape the service keeps its work in: entries report to gatherings that exist; a task
waiting for a gathering reports to one whose waiter reports nowhere, and so does a fan-out. -/
structure Nested (db : Db) : Prop where
  refs : ∀ e ∈ db.queue, ∀ g ∈ e.refs, g < db.gatherings.size
  waiters : ∀ g w, waiterAt db.gatherings g = some w → ∀ p ∈ w.refs,
    p < db.gatherings.size ∧ ShallowAt (waiterAt db.gatherings) p
  fanOuts : ∀ jobs check p, Entry.step (.fanOut jobs check) (some p) ∈ db.queue →
    ShallowAt (waiterAt db.gatherings) p

/-- The scheduler gets from `a` to `b` by running tasks. -/
def Runs (a b : Db) : Prop := Relation.ReflTransGen (fun d d' : Db => d.runFront = some d') a b

/-! ### Costs -/

theorem costOf_append (W : Nat → Option Waiter) (a b : List Entry) :
    costOf W (a ++ b) = costOf W a + costOf W b := by
  induction a with
  | nil => simp [costOf]
  | cons e a ih => simp only [List.cons_append, costOf, ih]; omega

theorem waiter_cost_le (w : Waiter) : w.cost ≤ 3 := by
  unfold Waiter.cost
  split <;> omega

theorem settleCost_le (W : Nat → Option Waiter) (g : Nat) : settleCost W g ≤ 4 := by
  have := fun w => waiter_cost_le w
  unfold settleCost
  split
  · grind
  · omega

theorem settleCost_le_of_shallow {W : Nat → Option Waiter} {p : Nat} (h : ShallowAt W p) :
    settleCost W p ≤ 2 := by
  unfold settleCost
  split
  · rename_i w hw
    have hrefs := h w hw
    unfold Waiter.refs at hrefs
    unfold Waiter.cost
    split <;> simp_all
  · omega

theorem finishCost_le (W : Nat → Option Waiter) (p : Option Nat) : finishCost W p ≤ 4 := by
  cases p <;> simp [finishCost, settleCost_le]

theorem Entry.cost_le_weight (W : Nat → Option Waiter) (e : Entry) : e.cost W ≤ e.weight := by
  have hf := finishCost_le W
  cases e with
  | step w p =>
    cases w with
    | read job again =>
      have := hf p
      cases again <;> simp [Entry.cost, Entry.weight] <;> omega
    | fanOut jobs check =>
      have := waiter_cost_le (.task check p)
      simp only [Entry.cost, Entry.weight]
      nlinarith
    | resume g check => have := hf p; simp [Entry.cost, Entry.weight]; omega
    | write m op => have := hf p; simp [Entry.cost, Entry.weight]; omega
  | settle g f => have := settleCost_le W g; simp [Entry.cost, Entry.weight]; omega
  | resumeMain => simp [Entry.cost, Entry.weight]

theorem costOf_le_totalWeight (W : Nat → Option Waiter) (q : List Entry) :
    costOf W q ≤ totalWeight q := by
  induction q with
  | nil => simp [costOf, totalWeight]
  | cons e q ih =>
    have := Entry.cost_le_weight W e
    simp only [costOf, totalWeight]
    omega

theorem potential_lt_fuel (db : Db) : db.potential < db.fuel :=
  Nat.lt_succ_of_le (costOf_le_totalWeight _ _)

theorem Entry.cost_congr {W W' : Nat → Option Waiter} {e : Entry}
    (h : ∀ g ∈ e.refs, W g = W' g) : e.cost W = e.cost W' := by
  cases e with
  | step w p =>
    cases p with
    | none => cases w <;> rfl
    | some g =>
      have hg : settleCost W g = settleCost W' g := by
        unfold settleCost
        rw [h g (by simp [Entry.refs])]
      cases w <;> simp [Entry.cost, finishCost, hg]
  | settle g f =>
    simp only [Entry.cost]
    unfold settleCost
    rw [h g (by simp [Entry.refs])]
  | resumeMain => rfl

theorem costOf_congr {W V : Nat → Option Waiter} {q : List Entry}
    (h : ∀ e ∈ q, ∀ g ∈ e.refs, W g = V g) : costOf W q = costOf V q := by
  induction q with
  | nil => rfl
  | cons e q ih =>
    simp only [costOf]
    rw [Entry.cost_congr (h e List.mem_cons_self), ih fun e' he' => h e' (List.mem_cons_of_mem e he')]

/-! ### Who waits, as the gatherings change -/

theorem waiterAt_push (gs : Array Gathering) (x : Gathering) (g : Nat) :
    waiterAt (gs.push x) g = if g = gs.size then some x.waiter else waiterAt gs g := by
  unfold waiterAt
  rw [Array.getElem?_push]
  split <;> rfl

theorem waiterAt_push_of_lt (gs : Array Gathering) (x : Gathering) {g : Nat} (hg : g < gs.size) :
    waiterAt (gs.push x) g = waiterAt gs g := by
  rw [waiterAt_push, if_neg (by omega)]

theorem waiterAt_setIfInBounds {gs : Array Gathering} {g : Nat} {x y : Gathering}
    (hx : gs[g]? = some x) (hy : y.waiter = x.waiter) :
    waiterAt (gs.setIfInBounds g y) = waiterAt gs := by
  funext g'
  unfold waiterAt
  rw [Array.getElem?_setIfInBounds]
  split
  · rename_i hgg
    subst hgg
    rw [if_pos (Array.getElem?_eq_some_iff.1 hx).1, hx]
    simp [hy]
  · rfl

theorem shallowAt_push {gs : Array Gathering} (x : Gathering) {p : Nat} (hp : p < gs.size)
    (h : ShallowAt (waiterAt gs) p) : ShallowAt (waiterAt (gs.push x)) p := by
  intro w hw
  rw [waiterAt_push_of_lt _ _ hp] at hw
  exact h w hw

/-! ### One step of the scheduler -/

theorem settle_cases (d : Db) (g : Nat) (failed : Bool) :
    (d.gatherings[g]? = none ∧ d.settle g failed = d) ∨
    (∃ x, d.gatherings[g]? = some x ∧ (x.outcome.isSome ∨ (failed = false ∧ x.ended + 1 ≠ x.size)) ∧
      d.settle g failed =
        { d with gatherings := d.gatherings.setIfInBounds g { x with ended := x.ended + 1 } }) ∨
    (∃ x f, d.gatherings[g]? = some x ∧ x.outcome = none ∧
      (f = true ∧ failed = true ∨ f = false ∧ failed = false ∧ x.ended + 1 = x.size) ∧
      d.settle g failed = ({ d with gatherings := (d.gatherings.setIfInBounds g
        { x with ended := x.ended + 1, outcome := some f }) }).wake g x.waiter) := by
  unfold Db.settle
  cases hx : d.gatherings[g]? with
  | none => exact .inl ⟨rfl, rfl⟩
  | some x =>
    right
    dsimp only
    cases hout : x.outcome with
    | some o => exact .inl ⟨x, rfl, by simp [hout], by simp [hout]⟩
    | none =>
      cases failed with
      | true => exact .inr ⟨x, true, rfl, hout, by simp, by simp⟩
      | false =>
        by_cases hend : x.ended + 1 = x.size
        · exact .inr ⟨x, false, rfl, hout, by simp [hend], by simp [hend]⟩
        · exact .inl ⟨x, rfl, by simp [hend], by simp [hout, hend]⟩

theorem finish_eq (d : Db) (p : Option Nat) (failed : Bool) :
    d.finish p failed = { d with queue := d.queue ++ p.toList.map (.settle · failed) } := by
  cases p <;> simp [Db.finish, Db.enqueue]

theorem costOf_reports (W : Nat → Option Waiter) (p : Option Nat) (failed : Bool) :
    costOf W (p.toList.map (.settle · failed)) = finishCost W p := by
  cases p <;> simp [costOf, Entry.cost, finishCost]

theorem Entry.refs_step (w : Work) (p : Option Nat) : (Entry.step w p).refs = p.toList := by
  cases p <;> rfl

theorem costOf_map_const (W : Nat → Option Waiter) {α : Type} (xs : List α) (f : α → Entry)
    {k : Nat} (hk : ∀ x, (f x).cost W = k) : costOf W (xs.map f) = xs.length * k := by
  induction xs with
  | nil => simp [costOf]
  | cons x xs ih => simp only [List.map_cons, costOf, hk, ih, List.length_cons]; ring

theorem runFront_eq_none {db : Db} (h : db.runFront = none) :
    db.queue = [] ∨ ∃ rest, db.queue = .resumeMain :: rest := by
  unfold runFront at h
  split at h
  · exact .inl ‹_›
  · exact .inr ⟨_, ‹_›⟩
  · cases h
  · cases h

theorem Nested.congr {d d' : Db} (h : d.Nested) (hq : d'.queue = d.queue)
    (hg : d'.gatherings = d.gatherings) : d'.Nested := by
  obtain ⟨h₁, h₂, h₃⟩ := h
  exact ⟨hq ▸ hg ▸ h₁, hg ▸ h₂, hq ▸ hg ▸ h₃⟩

theorem Nested.withQueue {d : Db} (h : d.Nested) {q : List Entry} (hq : ∀ e ∈ q, e ∈ d.queue) :
    Nested { d with queue := q } :=
  ⟨fun e he => h.refs e (hq e he), h.waiters, fun jobs check p hp => h.fanOuts jobs check p (hq _ hp)⟩

theorem Nested.append {d : Db} (h : d.Nested) {q : List Entry}
    (hq : ∀ e ∈ q, (∀ g ∈ e.refs, g < d.gatherings.size) ∧
      ∀ jobs check p, e ≠ .step (.fanOut jobs check) p) :
    Nested { d with queue := d.queue ++ q } := by
  refine ⟨fun e he => ?_, h.waiters, fun jobs check p hp => ?_⟩
  · rcases List.mem_append.1 he with he | he
    · exact h.refs e he
    · exact (hq e he).1
  · rcases List.mem_append.1 hp with hp | hp
    · exact h.fanOuts jobs check p hp
    · exact absurd rfl ((hq _ hp).2 jobs check (some p))

theorem Nested.openGathering {d : Db} (h : d.Nested) (works : List Work) {w : Waiter}
    (hw : ∀ p ∈ w.refs, p < d.gatherings.size ∧ ShallowAt (waiterAt d.gatherings) p)
    (hfan : w.refs = [] ∨ ∀ wk ∈ works, ∀ jobs check, wk ≠ .fanOut jobs check) :
    (d.openGathering works w).1.Nested := by
  rw [openGathering_eq]
  set x : Gathering := ⟨works.length, 0, none, w⟩
  have hsize : (d.gatherings.push x).size = d.gatherings.size + 1 := Array.size_push _
  -- a gathering before the new one keeps its waiter, and a shallow one stays shallow
  have hlift : ∀ p, p < d.gatherings.size ∧ ShallowAt (waiterAt d.gatherings) p →
      p < (d.gatherings.push x).size ∧ ShallowAt (waiterAt (d.gatherings.push x)) p :=
    fun p hp => ⟨by omega, shallowAt_push x hp.1 hp.2⟩
  refine ⟨fun e he g hg => ?_, fun g w' hw' p hp => ?_, fun jobs check p hp => ?_⟩
  · show g < (d.gatherings.push x).size
    rw [hsize]
    rcases List.mem_append.1 he with he | he
    · have := h.refs e he g hg
      omega
    · obtain ⟨wk, -, rfl⟩ := List.mem_map.1 he
      simp only [Entry.refs, List.mem_singleton] at hg
      omega
  · rw [waiterAt_push] at hw'
    split at hw'
    · cases hw'
      exact hlift p (hw p hp)
    · exact hlift p (h.waiters g w' hw' p hp)
  · rcases List.mem_append.1 hp with hp | hp
    · exact (hlift p ⟨h.refs _ hp p (by simp [Entry.refs]), h.fanOuts jobs check p hp⟩).2
    · obtain ⟨wk, hwk, hstep⟩ := List.mem_map.1 hp
      cases hstep
      rcases hfan with hnil | hno
      · intro w' hw'
        rw [waiterAt_push, if_pos rfl] at hw'
        cases hw'
        exact hnil
      · exact absurd rfl (hno _ hwk jobs check)

theorem Nested.wake {d : Db} (h : d.Nested) {g : Nat} {w : Waiter}
    (hw : waiterAt d.gatherings g = some w) :
    (d.wake g w).Nested ∧ (d.wake g w).potential ≤ d.potential + w.cost := by
  have hpar := h.waiters g w hw
  cases w with
  | main =>
    refine ⟨h.append (q := [.resumeMain]) (by simp [Entry.refs]), ?_⟩
    simp [Db.wake, Db.enqueue, potential, costOf_append, costOf, Entry.cost, Waiter.cost]
  | task check parent =>
    refine ⟨h.append (q := [.step (.resume g check) parent]) ?_, ?_⟩
    · simp only [List.mem_singleton, forall_eq]
      refine ⟨fun p hp => ?_, fun _ _ _ => by simp⟩
      cases parent with
      | none => simp [Entry.refs] at hp
      | some p' =>
        simp only [Entry.refs, List.mem_singleton] at hp
        subst hp
        exact (hpar p (by simp [Waiter.refs])).1
    · simp only [Db.wake, Db.enqueue, potential, costOf_append, costOf, Entry.cost]
      cases parent with
      | none => simp [finishCost, Waiter.cost]
      | some p =>
        have := settleCost_le_of_shallow (hpar p (by simp [Waiter.refs])).2
        simp only [finishCost, Waiter.cost]
        omega

/-- One step of the scheduler, as it changes the potential and keeps the nested shape. -/
structure Lowers (d d' : Db) : Prop where
  nested : d'.Nested
  lt : d'.potential < d.potential

theorem lowers_append {db d : Db} (h : db.Nested) {e : Entry} {rest : List Entry}
    (hq : db.queue = e :: rest) (hdq : d.queue = rest) (hdg : d.gatherings = db.gatherings)
    {q : List Entry}
    (hrefs : ∀ e' ∈ q, (∀ g ∈ e'.refs, g ∈ e.refs) ∧ ∀ jobs check p, e' ≠ .step (.fanOut jobs check) p)
    (hcost : costOf (waiterAt db.gatherings) q < e.cost (waiterAt db.gatherings)) :
    Lowers db { d with queue := d.queue ++ q } := by
  have hrest : Nested { db with queue := rest } := h.withQueue fun e' he' => by simp [hq, he']
  have hd : d.Nested := hrest.congr hdq hdg
  refine ⟨hd.append fun e' he' => ⟨fun g hg => ?_, (hrefs e' he').2⟩, ?_⟩
  · rw [hdg]
    exact h.refs e (by simp [hq]) g ((hrefs e' he').1 g hg)
  · simp only [potential, hdq, hdg, costOf_append, hq, costOf]
    omega

theorem lowers_finish {db d : Db} (h : db.Nested) {w : Work} {p : Option Nat} {rest : List Entry}
    (hq : db.queue = .step w p :: rest) (hdq : d.queue = rest) (hdg : d.gatherings = db.gatherings)
    (hcost : finishCost (waiterAt db.gatherings) p < (Entry.step w p).cost (waiterAt db.gatherings))
    (failed : Bool) : Lowers db (d.finish p failed) := by
  rw [finish_eq]
  refine lowers_append h hq hdq hdg (fun e' he' => ?_) (by rwa [costOf_reports])
  obtain ⟨g, hg, rfl⟩ := List.mem_map.1 he'
  refine ⟨fun g' hg' => ?_, by simp⟩
  simp only [Entry.refs, List.mem_singleton] at hg'
  subst hg'
  simpa [Entry.refs_step] using hg

theorem lowers_fanOut {db : Db} (h : db.Nested) {jobs : List ReadJob}
    {check : Collection → Option Failure} {p : Option Nat} {rest : List Entry}
    (hq : db.queue = .step (.fanOut jobs check) p :: rest) :
    Lowers db ({ db with queue := rest }.runWork p (.fanOut jobs check)) := by
  have hrest : Nested { db with queue := rest } := h.withQueue fun e' he' => by simp [hq, he']
  have hpar : ∀ p' ∈ (Waiter.task check p).refs,
      p' < db.gatherings.size ∧ ShallowAt (waiterAt db.gatherings) p' := by
    intro p' hp'
    cases p with
    | none => simp [Waiter.refs] at hp'
    | some g =>
      simp only [Waiter.refs, List.mem_singleton] at hp'
      subst hp'
      exact ⟨h.refs (.step (.fanOut jobs check) (some p')) (by simp [hq]) p' (by simp [Entry.refs]),
        h.fanOuts jobs check p' (by simp [hq])⟩
  refine ⟨hrest.openGathering _ hpar (.inr fun wk hwk jobs' check' => ?_), ?_⟩
  · obtain ⟨j, -, rfl⟩ := List.mem_map.1 hwk
    simp
  · show potential (Db.openGathering _ _ _).1 < _
    rw [openGathering_eq]
    simp only [potential, costOf_append]
    -- the queue already there reads who waits only for gatherings that existed before
    rw [costOf_congr (q := rest) (V := waiterAt db.gatherings) fun e he g hg =>
      waiterAt_push_of_lt _ _ (h.refs e (by simp [hq, he]) g hg), List.map_map,
      costOf_map_const _ jobs _ (k := 3 + (Waiter.task check p).cost) fun j => ?_]
    · simp only [hq, costOf, Entry.cost]
      omega
    · simp [Entry.cost, finishCost, settleCost, waiterAt_push]
      omega

theorem lowers_settle {db : Db} (h : db.Nested) {g : Nat} {failed : Bool} {rest : List Entry}
    (hq : db.queue = .settle g failed :: rest) :
    Lowers db ({ db with queue := rest }.settle g failed) := by
  have hd : Nested { db with queue := rest } := h.withQueue fun e he => by simp [hq, he]
  have hpot : db.potential =
      settleCost (waiterAt db.gatherings) g + costOf (waiterAt db.gatherings) rest := by
    simp [potential, hq, costOf, Entry.cost]
  have hpos : 1 ≤ settleCost (waiterAt db.gatherings) g := by unfold settleCost; split <;> omega
  rcases settle_cases { db with queue := rest } g failed with
    ⟨-, hs⟩ | ⟨x, hx, -, hs⟩ | ⟨x, f, hx, -, -, hs⟩
  · rw [hs]
    exact ⟨hd, by simp only [potential] at hpot ⊢; omega⟩
  · rw [hs]
    have hW := waiterAt_setIfInBounds (y := { x with ended := x.ended + 1 }) hx rfl
    refine ⟨⟨by simpa using hd.refs, by simpa [hW] using hd.waiters, by simpa [hW] using hd.fanOuts⟩, ?_⟩
    simp only [potential, hW] at hpot ⊢
    omega
  · -- the gathering ends: its waiter's steps were part of the report's cost
    rw [hs]
    have hW := waiterAt_setIfInBounds (y := { x with ended := x.ended + 1, outcome := some f }) hx rfl
    simp only at hW
    have hwx : waiterAt db.gatherings g = some x.waiter := by simp_all [waiterAt]
    have hnest : Nested { db with queue := rest, gatherings := (db.gatherings.setIfInBounds g
        { x with ended := x.ended + 1, outcome := some f }) } :=
      ⟨by simpa using hd.refs, by simpa [hW] using hd.waiters, by simpa [hW] using hd.fanOuts⟩
    have hsettle : settleCost (waiterAt db.gatherings) g = 1 + x.waiter.cost := by
      simp [settleCost, hwx]
    obtain ⟨hn, hle⟩ := hnest.wake (g := g) (w := x.waiter) (by simpa [hW] using hwx)
    refine ⟨hn, ?_⟩
    simp only [potential, hW] at hpot hle ⊢
    omega

/-- Every step the scheduler runs lowers the potential and keeps the nested shape. -/
theorem lowers_runFront {db db' : Db} (h : db.Nested) (hrun : db.runFront = some db') :
    Lowers db db' := by
  obtain ⟨g, failed, rest, hq, rfl⟩ | ⟨w, p, rest, hq, rfl⟩ := runFront_eq_some hrun
  · exact lowers_settle h hq
  · have hfc := finishCost_le (waiterAt db.gatherings) p
    cases w with
    | read job again =>
      obtain ⟨plans, hatt⟩ := attempt_fst { db with queue := rest } job.method
      dsimp only [Db.runWork]
      rcases hA : Db.attempt { db with queue := rest } job.method with ⟨d₁, f⟩
      rw [hA] at hatt
      cases hatt
      cases f with
      | some f =>
        dsimp only
        split
        · -- a first try after a transient fault goes to the back of the queue, as a second try
          rename_i hagain
          have hfirst : again = false := by simpa using (Bool.and_eq_true_iff.1 hagain).2
          subst hfirst
          refine lowers_append h hq (by rfl) (by rfl) (q := [.step (.read job true) p]) ?_ ?_
          · simp [Entry.refs_step]
          · simp [costOf, Entry.cost]
        · exact lowers_finish h hq (by rfl) (by rfl) (by cases again <;> simp [Entry.cost]) true
      | none => exact lowers_finish h hq (by rfl) (by rfl) (by cases again <;> simp [Entry.cost]) _
    | fanOut jobs check => exact lowers_fanOut h hq
    | resume g check =>
      dsimp only [Db.runWork]
      exact lowers_finish h hq (by rfl) (by rfl) (by simp [Entry.cost]) _
    | write m op =>
      obtain ⟨plans, hatt⟩ := attempt_fst { db with queue := rest } m
      dsimp only [Db.runWork]
      rcases hA : Db.attempt { db with queue := rest } m with ⟨d₁, f⟩
      rw [hA] at hatt
      cases hatt
      cases f with
      | some f => exact lowers_finish h hq (by rfl) (by rfl) (by simp [Entry.cost]) false
      | none => exact lowers_finish h hq (by rfl) (by rfl) (by simp [Entry.cost]) false

/-! ### Runs of the scheduler -/

/-- With fuel above the potential, running everything empties the queue. -/
theorem runAll_queue : ∀ (fuel : Nat) {db : Db}, db.Nested → db.potential < fuel →
    (runAll fuel db).queue = []
  | 0, _, _, hlt => absurd hlt (Nat.not_lt_zero _)
  | fuel + 1, db, h, hlt => by
    unfold runAll
    cases hr : db.runFront with
    | some d' =>
      have hl := lowers_runFront h hr
      exact runAll_queue fuel hl.nested (by have := hl.lt; omega)
    | none =>
      dsimp only
      rcases runFront_eq_none hr with hq | ⟨rest, hq⟩
      · rw [hq]
        exact hq
      · -- the main line's turn is passed over: nothing waits for it any more
        rw [hq]
        refine runAll_queue fuel (h.withQueue fun e he => by simp [hq, he]) ?_
        simp only [potential, hq, costOf, Entry.cost] at hlt ⊢
        omega

theorem settleAll_queue {db : Db} (h : db.Nested) : db.settleAll.queue = [] :=
  runAll_queue _ h (potential_lt_fuel db)

/-- With fuel above the potential, a wait of the main line runs tasks until none can run, and
then takes the main line's turn from the front of the queue. -/
theorem runUntilMain_stops : ∀ (fuel : Nat) {db : Db}, db.Nested → db.potential < fuel →
    ∃ d, Runs db d ∧ d.Nested ∧ d.runFront = none ∧
      runUntilMain fuel db = { d with queue := d.queue.drop 1 }
  | 0, _, _, hlt => absurd hlt (Nat.not_lt_zero _)
  | fuel + 1, db, h, hlt => by
    unfold runUntilMain
    cases hr : db.runFront with
    | some d' =>
      have hl := lowers_runFront h hr
      obtain ⟨d, hrun, hd, hstop, heq⟩ := runUntilMain_stops fuel hl.nested (by have := hl.lt; omega)
      exact ⟨d, Relation.ReflTransGen.head hr hrun, hd, hstop, heq⟩
    | none => exact ⟨db, Relation.ReflTransGen.refl, h, hr, rfl⟩

theorem Runs.preserve {I : Db → Prop}
    (hI : ∀ {d d' : Db}, d.Nested → I d → d.runFront = some d' → I d') {a b : Db}
    (hab : Runs a b) (ha : a.Nested) (hIa : I a) : b.Nested ∧ I b := by
  induction hab with
  | refl => exact ⟨ha, hIa⟩
  | tail _ hstep ih =>
    obtain ⟨hn, hi⟩ := ih
    exact ⟨(lowers_runFront hn hstep).nested, hI hn hi hstep⟩

theorem pause_stops {db : Db} (h : db.Nested) :
    ∃ d, Runs (db.enqueue .resumeMain) d ∧ d.Nested ∧ d.runFront = none ∧
      db.pause = { d with queue := d.queue.drop 1 } :=
  runUntilMain_stops _ (h.append (q := [.resumeMain]) (by simp [Entry.refs]))
    (potential_lt_fuel _)

theorem gather_stops {db : Db} (h : db.Nested) (works : List Work) :
    ∃ d, Runs (db.openGathering works .main).1 d ∧ d.Nested ∧ d.runFront = none ∧
      gather works db = (d.failedGathering db.gatherings.size, { d with queue := d.queue.drop 1 }) := by
  have hopen := h.openGathering works (w := .main) (by simp [Waiter.refs]) (.inl rfl)
  obtain ⟨d, hrun, hd, hstop, heq⟩ := runUntilMain_stops _ hopen (potential_lt_fuel _)
  refine ⟨d, hrun, hd, hstop, ?_⟩
  have hg : (db.openGathering works .main).2 = db.gatherings.size := rfl
  simp only [gather, heq, hg]
  rfl

end Db

end AuditTrail
