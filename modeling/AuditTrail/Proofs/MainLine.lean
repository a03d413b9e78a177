import AuditTrail.Proofs.SchedulerFuel

/-!
# The main line's turn

Between operations every open gathering of the main line is silent and no turn is queued
(`Db.Poised`); giving way, gathering and waiting for a write keep it so.
-/

namespace AuditTrail

def Entry.isMain : Entry → Bool
  | .resumeMain => true
  | _ => false

/-- An entry a task of gathering `p` queues when it runs: it reports to `p`, and it is neither
the main line's turn, nor a write, nor a fan-out. -/
def Entry.Follows (p : Option Nat) (e : Entry) : Prop :=
  e.refs = p.toList ∧ e.isMain = false ∧ e.WritesNothing ∧
    ∀ jobs check p', e ≠ .step (.fanOut jobs check) p'

namespace Db

def Open (db : Db) (g : Nat) : Prop :=
  ∃ x, db.gatherings[g]? = some x ∧ x.waiter = .main ∧ x.outcome = none

/-- Nothing in flight reports to gathering `g`, nor to a gathering that has not ended and whose
waiter reports to `g`. -/
def Silent (db : Db) (g : Nat) : Prop :=
  (∀ e ∈ db.queue, g ∉ e.refs) ∧
    ∀ g' x, db.gatherings[g']? = some x → x.outcome = none → g ∈ x.waiter.refs →
      ∀ e ∈ db.queue, g' ∉ e.refs

def turns (db : Db) : Nat := db.queue.countP Entry.isMain

/-- The store as the main line finds it between operations: nested, every gathering of the main
line that has not ended silent, and no turn of the main line queued. -/
structure Poised (db : Db) : Prop where
  nested : db.Nested
  silent : ∀ g, db.Open g → db.Silent g
  turns : db.turns = 0

/-- The store while the main line waits for gathering `g₀`: every other gathering of the main
line that has not ended is silent, and the main line's turn is queued once when `g₀` has ended,
and not at all before. -/
structure Waits (g₀ : Nat) (db : Db) : Prop where
  silent : ∀ g, g ≠ g₀ → db.Open g → db.Silent g
  turn : (db.turns = 0 ∧ db.Open g₀) ∨ (db.turns = 1 ∧ ¬ db.Open g₀)

theorem mem_reports {p : Option Nat} {failed : Bool} {e : Entry}
    (he : e ∈ p.toList.map (.settle · failed)) : e.Follows p := by
  obtain ⟨g, hg, rfl⟩ := List.mem_map.1 he
  cases p with
  | none => cases hg
  | some g' =>
    rw [Option.mem_toList] at hg
    cases hg
    exact ⟨rfl, rfl, trivial, by simp⟩

theorem getElem?_setIfInBounds_of_some {gs : Array Gathering} {g : Nat} {x : Gathering}
    (hx : gs[g]? = some x) (y : Gathering) (g' : Nat) :
    (gs.setIfInBounds g y)[g']? = if g = g' then some y else gs[g']? := by
  rw [Array.getElem?_setIfInBounds]
  split
  · rw [if_pos (Array.getElem?_eq_some_iff.1 hx).1]
  · rfl

/-! ### What a step of the scheduler does -/

/-- A step runs a task that queues entries following it, touching at most the collection (when
it writes); or runs a fan-out, which opens a gathering of reads; or settles a gathering. -/
theorem runFront_cases {db db' : Db} (h : db.runFront = some db') :
    (∃ w p rest q, db.queue = .step w p :: rest ∧ (∀ jobs check, w ≠ .fanOut jobs check) ∧
      db'.queue = rest ++ q ∧ db'.gatherings = db.gatherings ∧ (∀ e ∈ q, e.Follows p) ∧
      (db'.coll = db.coll ∨ ∃ m op, w = .write m op ∧ db'.coll = op db.coll)) ∨
    (∃ jobs check p rest, db.queue = .step (.fanOut jobs check) p :: rest ∧
      db' = ({ db with queue := rest }.openGathering (jobs.map (Work.read · false))
        (.task check p)).1) ∨
    (∃ g failed rest, db.queue = .settle g failed :: rest ∧
      db' = { db with queue := rest }.settle g failed) := by
  obtain ⟨g, failed, rest, hq, rfl⟩ | ⟨w, p, rest, hq, rfl⟩ := runFront_eq_some h
  · exact .inr (.inr ⟨g, failed, rest, hq, rfl⟩)
  · -- a task ends by its report, after which the collection is as the task left it
    have hfinish : ∀ (d : Db) (failed : Bool), d.queue = rest → d.gatherings = db.gatherings →
        (d.finish p failed).queue = rest ++ p.toList.map (.settle · failed) ∧
          (d.finish p failed).gatherings = db.gatherings ∧ (d.finish p failed).coll = d.coll := by
      intro d failed hdq hdg
      rw [finish_eq]
      exact ⟨by rw [hdq], hdg, rfl⟩
    cases w with
    | read job again =>
      left
      obtain ⟨plans, hatt⟩ := attempt_fst { db with queue := rest } job.method
      dsimp only [Db.runWork]
      rcases hA : Db.attempt { db with queue := rest } job.method with ⟨d₁, f⟩
      rw [hA] at hatt
      cases hatt
      cases f with
      | some f =>
        dsimp only
        split
        · exact ⟨_, p, rest, [.step (.read job true) p], hq, by simp, rfl, rfl,
            by simp [Entry.Follows, Entry.refs_step, Entry.isMain, Entry.WritesNothing,
              Work.WritesNothing], .inl rfl⟩
        · obtain ⟨h₁, h₂, h₃⟩ := hfinish { db with queue := rest, plans } true rfl rfl
          exact ⟨_, p, rest, _, hq, by simp, h₁, h₂, fun e he => mem_reports he, .inl h₃⟩
      | none =>
        obtain ⟨h₁, h₂, h₃⟩ := hfinish { db with queue := rest, plans } _ rfl rfl
        exact ⟨_, p, rest, _, hq, by simp, h₁, h₂, fun e he => mem_reports he, .inl h₃⟩
    | fanOut jobs check => exact .inr (.inl ⟨jobs, check, p, rest, hq, rfl⟩)
    | resume g check =>
      left
      dsimp only [Db.runWork]
      obtain ⟨h₁, h₂, h₃⟩ := hfinish { db with queue := rest } (Db.failedGathering
        { db with queue := rest } g || (check db.coll).isSome) rfl rfl
      exact ⟨_, p, rest, _, hq, by simp, h₁, h₂, fun e he => mem_reports he, .inl h₃⟩
    | write m op =>
      left
      obtain ⟨plans, hatt⟩ := attempt_fst { db with queue := rest } m
      dsimp only [Db.runWork]
      rcases hA : Db.attempt { db with queue := rest } m with ⟨d₁, f⟩
      rw [hA] at hatt
      cases hatt
      cases f with
      | some f =>
        obtain ⟨h₁, h₂, h₃⟩ := hfinish { db with queue := rest, plans } false rfl rfl
        exact ⟨_, p, rest, _, hq, by simp, h₁, h₂, fun e he => mem_reports he, .inl h₃⟩
      | none =>
        obtain ⟨h₁, h₂, h₃⟩ := hfinish { db with queue := rest, plans, coll := op db.coll } false
          rfl rfl
        exact ⟨_, p, rest, _, hq, by simp, h₁, h₂, fun e he => mem_reports he,
          .inr ⟨m, op, rfl, h₃⟩⟩

theorem wake_eq (d : Db) (g : Nat) (w : Waiter) :
    ∃ e, d.wake g w = { d with queue := d.queue ++ [e] } ∧ e.refs = w.refs ∧
      (e.isMain = true ↔ w = .main) ∧ e.WritesNothing ∧
      ∀ jobs check p, e ≠ .step (.fanOut jobs check) p := by
  cases w with
  | main => exact ⟨.resumeMain, rfl, rfl, by simp [Entry.isMain], trivial, by simp⟩
  | task check p =>
    refine ⟨.step (.resume g check) p, rfl, ?_, by simp [Entry.isMain], trivial, by simp⟩
    cases p <;> rfl

theorem runFront_queue {db db' : Db} (hrun : db.runFront = some db') :
    ∃ E rest q, db.queue = E :: rest ∧ db'.queue = rest ++ q ∧ ∀ e ∈ q, e.WritesNothing ∧
      ∀ g ∈ e.refs, g ∈ E.refs ∨ g = db.gatherings.size ∨
        ∃ g₁ failed x, E = .settle g₁ failed ∧ db.gatherings[g₁]? = some x ∧ g ∈ x.waiter.refs := by
  rcases runFront_cases hrun with ⟨w, p, rest, q, hq, -, hq', -, hfol, -⟩ |
    ⟨jobs, check, p, rest, hq, rfl⟩ | ⟨g₁, failed, rest, hq, rfl⟩
  · refine ⟨_, rest, q, hq, hq', fun e he => ⟨(hfol e he).2.2.1, fun g hg => .inl ?_⟩⟩
    rwa [(hfol e he).1, ← Entry.refs_step w p] at hg
  · rw [openGathering_eq]
    refine ⟨_, rest, _, hq, rfl, fun e he => ?_⟩
    obtain ⟨wk, hwk, rfl⟩ := List.mem_map.1 he
    obtain ⟨j, -, rfl⟩ := List.mem_map.1 hwk
    exact ⟨trivial, fun g hg => .inr (.inl (by simpa [Entry.refs] using hg))⟩
  · rcases settle_cases { db with queue := rest } g₁ failed with
      ⟨-, hset⟩ | ⟨x, hx, -, hset⟩ | ⟨x, f, hx, -, -, hset⟩
    · exact ⟨_, rest, [], hq, by rw [hset]; simp, by simp⟩
    · exact ⟨_, rest, [], hq, by rw [hset]; simp, by simp⟩
    · obtain ⟨e₀, hwake, hrefs, -, hw, -⟩ := wake_eq
        { db with queue := rest, gatherings := (db.gatherings.setIfInBounds g₁
          { x with ended := x.ended + 1, outcome := some f }) } g₁ x.waiter
      refine ⟨_, rest, [e₀], hq, by rw [hset, hwake], fun e he => ?_⟩
      rw [List.mem_singleton.1 he]
      exact ⟨hw, fun g hg => .inr (.inr ⟨g₁, failed, x, rfl, hx, hrefs ▸ hg⟩)⟩

theorem runFront_gathering {db db' : Db} (hrun : db.runFront = some db') {g : Nat}
    (hg : g < db.gatherings.size) (hfront : ∀ failed rest, db.queue ≠ .settle g failed :: rest) :
    db'.gatherings[g]? = db.gatherings[g]? := by
  rcases runFront_cases hrun with ⟨w, p, rest, q, -, -, -, hg', -, -⟩ |
    ⟨jobs, check, p, rest, hq, rfl⟩ | ⟨g₁, failed, rest, hq, rfl⟩
  · rw [hg']
  · rw [openGathering_eq]
    show (db.gatherings.push _)[g]? = _
    rw [Array.getElem?_push, if_neg (Nat.ne_of_lt hg)]
  · have hne : g₁ ≠ g := by
      rintro rfl
      exact hfront failed rest hq
    rcases settle_cases { db with queue := rest } g₁ failed with
      ⟨-, hset⟩ | ⟨x, hx, -, hset⟩ | ⟨x, f, hx, -, -, hset⟩
    · rw [hset]
    · rw [hset]
      exact Array.getElem?_setIfInBounds_ne hne
    · obtain ⟨e₀, hwake, -⟩ := wake_eq
        { db with queue := rest, gatherings := (db.gatherings.setIfInBounds g₁
          { x with ended := x.ended + 1, outcome := some f }) } g₁ x.waiter
      rw [hset, hwake]
      exact Array.getElem?_setIfInBounds_ne hne

theorem runFront_waiter {db db' : Db} (hrun : db.runFront = some db') {g : Nat} {x' : Gathering}
    (hx' : db'.gatherings[g]? = some x') :
    (∃ x, db.gatherings[g]? = some x ∧ x.waiter = x'.waiter) ∨
      ∃ jobs check p rest, db.queue = .step (.fanOut jobs check) p :: rest ∧
        x'.waiter = .task check p := by
  rcases runFront_cases hrun with ⟨w, p, rest, q, -, -, -, hg', -, -⟩ |
    ⟨jobs, check, p, rest, hq, rfl⟩ | ⟨g₁, failed, rest, hq, rfl⟩
  · exact .inl ⟨x', hg' ▸ hx', rfl⟩
  · rw [openGathering_eq] at hx'
    simp only [Array.getElem?_push] at hx'
    split at hx'
    · cases hx'
      exact .inr ⟨jobs, check, p, rest, hq, rfl⟩
    · exact .inl ⟨x', hx', rfl⟩
  · left
    rcases settle_cases { db with queue := rest } g₁ failed with
      ⟨-, hset⟩ | ⟨x, hx, -, hset⟩ | ⟨x, f, hx, -, -, hset⟩
    · rw [hset] at hx'
      exact ⟨x', hx', rfl⟩
    · rw [hset] at hx'
      simp only [getElem?_setIfInBounds_of_some hx] at hx'
      split at hx'
      · cases hx'
        rename_i hgg
        exact ⟨x, hgg ▸ hx, rfl⟩
      · exact ⟨x', hx', rfl⟩
    · obtain ⟨e₀, hwake, -⟩ := wake_eq
        { db with queue := rest, gatherings := (db.gatherings.setIfInBounds g₁
          { x with ended := x.ended + 1, outcome := some f }) } g₁ x.waiter
      rw [hset, hwake] at hx'
      simp only [getElem?_setIfInBounds_of_some hx] at hx'
      split at hx'
      · cases hx'
        rename_i hgg
        exact ⟨x, hgg ▸ hx, rfl⟩
      · exact ⟨x', hx', rfl⟩

theorem runFront_coll {db db' : Db} (hrun : db.runFront = some db') {E : Entry} {rest : List Entry}
    (hq : db.queue = E :: rest) (hE : E.WritesNothing) : db'.coll = db.coll := by
  rcases runFront_cases hrun with ⟨w, p, rest', q, hq', -, -, -, -, hcoll⟩ |
    ⟨jobs, check, p, rest', hq', rfl⟩ | ⟨g₁, failed, rest', hq', rfl⟩
  · rcases hcoll with hcoll | ⟨m, op, rfl, -⟩
    · exact hcoll
    · rw [hq] at hq'
      cases hq'
      exact hE.elim
  · rw [openGathering_eq]
  · rcases settle_cases { db with queue := rest' } g₁ failed with
      ⟨-, hset⟩ | ⟨x, hx, -, hset⟩ | ⟨x, f, hx, -, -, hset⟩
    · rw [hset]
    · rw [hset]
    · obtain ⟨e₀, hwake, -⟩ := wake_eq
        { db with queue := rest', gatherings := (db.gatherings.setIfInBounds g₁
          { x with ended := x.ended + 1, outcome := some f }) } g₁ x.waiter
      rw [hset, hwake]

theorem runFront_coll_write {db db' : Db} (hrun : db.runFront = some db') {m : StoreMethod}
    {op : Collection → Collection} {p : Option Nat} {rest : List Entry}
    (hq : db.queue = .step (.write m op) p :: rest) : db'.coll = db.coll ∨ db'.coll = op db.coll := by
  rcases runFront_cases hrun with ⟨w, p', rest', q, hq', -, -, -, -, hcoll⟩ |
    ⟨jobs, check, p', rest', hq', -⟩ | ⟨g₁, failed, rest', hq', -⟩
  · rcases hcoll with hcoll | ⟨m', op', rfl, hcoll⟩
    · exact .inl hcoll
    · rw [hq] at hq'
      cases hq'
      exact .inr hcoll
  · rw [hq] at hq'
    cases hq'
  · rw [hq] at hq'
    cases hq'

theorem Silent.runFront {db db' : Db} (hn : db.Nested) {g : Nat} (hs : db.Silent g)
    (hg : g < db.gatherings.size) (hrun : db.runFront = some db') :
    db'.Silent g ∧ db'.gatherings[g]? = db.gatherings[g]? := by
  obtain ⟨hs₁, hs₂⟩ := hs
  rcases runFront_cases hrun with ⟨w, p, rest, q, hq, -, hq', hg', hfol, -⟩ |
    ⟨jobs, check, p, rest, hq, rfl⟩ | ⟨g₁, failed, rest, hq, rfl⟩
  · -- the task's entries report where the task did
    have hE : ∀ e ∈ q, ∀ g', g' ∈ e.refs → g' ∈ (Entry.step w p).refs := fun e he g' hg' => by
      rwa [(hfol e he).1, ← Entry.refs_step w p] at hg'
    refine ⟨⟨fun e he hge => ?_, fun g' x hx hout hw e he hge => ?_⟩, by rw [hg']⟩
    · rw [hq'] at he
      rcases List.mem_append.1 he with he | he
      · exact hs₁ e (by simp [hq, he]) hge
      · exact hs₁ _ (by simp [hq]) (hE e he g hge)
    · rw [hg'] at hx
      rw [hq'] at he
      rcases List.mem_append.1 he with he | he
      · exact hs₂ g' x hx hout hw e (by simp [hq, he]) hge
      · exact hs₂ g' x hx hout hw _ (by simp [hq]) (hE e he g' hge)
  · -- a fan-out's reads report to its new gathering, whose waiter reports where it did
    rw [openGathering_eq]
    refine ⟨⟨fun e he hge => ?_, fun g' x hx hout hw e he hge => ?_⟩,
      by show (db.gatherings.push _)[g]? = _; rw [Array.getElem?_push, if_neg (Nat.ne_of_lt hg)]⟩
    · rcases List.mem_append.1 he with he | he
      · exact hs₁ e (by simp [hq, he]) hge
      · obtain ⟨wk, -, rfl⟩ := List.mem_map.1 he
        simp only [Entry.refs, List.mem_singleton] at hge
        omega
    · simp only [Array.getElem?_push] at hx
      split at hx
      · -- the new gathering reports where the fan-out did
        cases hx
        cases p with
        | none => simp [Waiter.refs] at hw
        | some p =>
          simp only [Waiter.refs, List.mem_singleton] at hw
          subst hw
          exact hs₁ (.step (.fanOut jobs check) (some g)) (by simp [hq]) (by simp [Entry.refs])
      · rcases List.mem_append.1 he with he | he
        · exact hs₂ g' x hx hout hw e (by simp [hq, he]) hge
        · obtain ⟨wk, -, rfl⟩ := List.mem_map.1 he
          simp only [Entry.refs, List.mem_singleton] at hge
          subst hge
          rw [Array.getElem?_eq_none (Nat.le_refl _)] at hx
          cases hx
  · have hne : g₁ ≠ g := fun h => hs₁ (.settle g₁ failed) (by simp [hq]) (by simp [Entry.refs, h])
    have hrest : ∀ e ∈ rest, e ∈ db.queue := fun e he => by simp [hq, he]
    rcases settle_cases { db with queue := rest } g₁ failed with
      ⟨-, hset⟩ | ⟨x, hx, -, hset⟩ | ⟨x, f, hx, hout₁, -, hset⟩
    · rw [hset]
      exact ⟨⟨fun e he => hs₁ e (hrest e he), fun g' x hx hout hw e he =>
        hs₂ g' x hx hout hw e (hrest e he)⟩, rfl⟩
    · -- the count moves on; the gathering keeps its waiter and its outcome
      rw [hset]
      refine ⟨⟨fun e he => hs₁ e (hrest e he), fun g' x' hx' hout hw e he => ?_⟩,
        Array.getElem?_setIfInBounds_ne hne⟩
      simp only [getElem?_setIfInBounds_of_some hx] at hx'
      split at hx'
      · cases hx'
        rename_i hgg
        subst hgg
        exact hs₂ _ x hx hout hw e (hrest e he)
      · exact hs₂ g' x' hx' hout hw e (hrest e he)
    · -- the gathering ends and wakes its waiter, which reports where the gathering's waiter does
      rw [hset]
      obtain ⟨e₀, hwake, hrefs, -⟩ := wake_eq
        { db with queue := rest, gatherings := (db.gatherings.setIfInBounds g₁
          { x with ended := x.ended + 1, outcome := some f }) } g₁ x.waiter
      rw [hwake]
      have hw₀ : g ∉ e₀.refs := fun hge =>
        hs₂ g₁ x hx hout₁ (hrefs ▸ hge) (.settle g₁ failed) (by simp [hq]) (by simp [Entry.refs])
      refine ⟨⟨fun e he => ?_, fun g' x' hx' hout hw e he => ?_⟩,
        Array.getElem?_setIfInBounds_ne hne⟩
      · rcases List.mem_append.1 he with he | he
        · exact hs₁ e (hrest e he)
        · rw [List.mem_singleton.1 he]
          exact hw₀
      · simp only [getElem?_setIfInBounds_of_some hx] at hx'
        split at hx'
        · cases hx'
          cases hout
        · rcases List.mem_append.1 he with he | he
          · exact hs₂ g' x' hx' hout hw e (hrest e he)
          · -- the woken waiter reports to a gathering whose own waiter reports nowhere
            rw [List.mem_singleton.1 he, hrefs]
            intro hg'
            have hshallow := (hn.waiters g₁ x.waiter (by simp [waiterAt, hx]) g' hg').2
            rw [hshallow x'.waiter (by simp [waiterAt, hx'])] at hw
            cases hw

theorem Open.of_runFront {db db' : Db} (hrun : db.runFront = some db') {g : Nat}
    (h : db'.Open g) : db.Open g := by
  obtain ⟨x', hx', hmain, hout⟩ := h
  rcases runFront_cases hrun with ⟨w, p, rest, q, -, -, -, hg', -, -⟩ |
    ⟨jobs, check, p, rest, hq, rfl⟩ | ⟨g₁, failed, rest, hq, rfl⟩
  · exact ⟨x', hg' ▸ hx', hmain, hout⟩
  · rw [openGathering_eq] at hx'
    simp only [Array.getElem?_push] at hx'
    split at hx'
    · cases hx'
      cases hmain
    · exact ⟨x', hx', hmain, hout⟩
  · rcases settle_cases { db with queue := rest } g₁ failed with
      ⟨-, hset⟩ | ⟨x, hx, -, hset⟩ | ⟨x, f, hx, -, -, hset⟩
    · rw [hset] at hx'
      exact ⟨x', hx', hmain, hout⟩
    · rw [hset] at hx'
      simp only [getElem?_setIfInBounds_of_some hx] at hx'
      split at hx'
      · cases hx'
        rename_i hgg
        subst hgg
        exact ⟨x, hx, hmain, hout⟩
      · exact ⟨x', hx', hmain, hout⟩
    · obtain ⟨e₀, hwake, -⟩ := wake_eq
        { db with queue := rest, gatherings := (db.gatherings.setIfInBounds g₁
          { x with ended := x.ended + 1, outcome := some f }) } g₁ x.waiter
      rw [hset, hwake] at hx'
      simp only [getElem?_setIfInBounds_of_some hx] at hx'
      split at hx'
      · cases hx'
        cases hout
      · exact ⟨x', hx', hmain, hout⟩

/-- A step queues the main line's turn only by ending an open gathering of the main line that
was not silent; otherwise it queues none and every open gathering stays open. -/
theorem turns_runFront {db db' : Db} (hrun : db.runFront = some db') :
    (db'.turns = db.turns ∧ ∀ g, db.Open g → db'.Open g) ∨
    ∃ g, db.Open g ∧ ¬ db.Silent g ∧ ¬ db'.Open g ∧ db'.turns = db.turns + 1 ∧
      ∀ g', g' ≠ g → db.Open g' → db'.Open g' := by
  rcases runFront_cases hrun with ⟨w, p, rest, q, hq, -, hq', hg', hfol, -⟩ |
    ⟨jobs, check, p, rest, hq, rfl⟩ | ⟨g₁, failed, rest, hq, rfl⟩
  · refine .inl ⟨?_, fun g hg => ?_⟩
    swap
    · obtain ⟨x, hx, hmain, hout⟩ := hg
      exact ⟨x, hg' ▸ hx, hmain, hout⟩
    have hq0 : q.countP Entry.isMain = 0 :=
      List.countP_eq_zero.2 fun e he => by simp [(hfol e he).2.1]
    simp [turns, hq, hq', List.countP_append, hq0, Entry.isMain]
  · refine .inl ⟨?_, fun g hg => ?_⟩
    · rw [openGathering_eq]
      simp [turns, hq, List.countP_append, Entry.isMain]
    · obtain ⟨x, hx, hmain, hout⟩ := hg
      refine ⟨x, ?_, hmain, hout⟩
      rw [openGathering_eq]
      simp only [Array.getElem?_push, if_neg (Nat.ne_of_lt (Array.getElem?_eq_some_iff.1 hx).1)]
      exact hx
  · have hturns : db.queue.countP Entry.isMain = rest.countP Entry.isMain := by
      simp [hq, Entry.isMain]
    rcases settle_cases { db with queue := rest } g₁ failed with
      ⟨-, hset⟩ | ⟨x, hx, -, hset⟩ | ⟨x, f, hx, hout₁, -, hset⟩
    · rw [hset]
      exact .inl ⟨hturns.symm, fun g hg => hg⟩
    · rw [hset]
      refine .inl ⟨hturns.symm, fun g hg => ?_⟩
      obtain ⟨x', hx', hmain, hout⟩ := hg
      by_cases hgg : g₁ = g
      · subst hgg
        rw [hx] at hx'
        cases hx'
        exact ⟨{ x with ended := x.ended + 1 },
          Array.getElem?_setIfInBounds_self_of_lt (Array.getElem?_eq_some_iff.1 hx).1, hmain, hout⟩
      · exact ⟨x', by rw [Array.getElem?_setIfInBounds_ne hgg]; exact hx', hmain, hout⟩
    · obtain ⟨e₀, hwake, -, hmain₀, -⟩ := wake_eq
        { db with queue := rest, gatherings := (db.gatherings.setIfInBounds g₁
          { x with ended := x.ended + 1, outcome := some f }) } g₁ x.waiter
      rw [hset, hwake]
      have hkeep : ∀ g', g' ≠ g₁ → db.Open g' →
          Open { db with queue := rest ++ [e₀], gatherings := (db.gatherings.setIfInBounds g₁
            { x with ended := x.ended + 1, outcome := some f }) } g' :=
        fun g' hne hg' => by
          obtain ⟨x', hx', hmain, hout⟩ := hg'
          exact ⟨x', by rw [Array.getElem?_setIfInBounds_ne (Ne.symm hne)]; exact hx', hmain, hout⟩
      have hclosed : ¬ Open { db with queue := rest ++ [e₀], gatherings :=
          (db.gatherings.setIfInBounds g₁ { x with ended := x.ended + 1, outcome := some f }) } g₁ := by
        rintro ⟨x', hx', -, hout⟩
        rw [Array.getElem?_setIfInBounds_self_of_lt (Array.getElem?_eq_some_iff.1 hx).1] at hx'
        cases hx'
        cases hout
      by_cases hmain : x.waiter = .main
      · refine .inr ⟨g₁, ⟨x, hx, hmain, hout₁⟩,
          fun hs => hs.1 (.settle g₁ failed) (by simp [hq]) (by simp [Entry.refs]),
          hclosed, ?_, hkeep⟩
        simp [turns, List.countP_append, hmain₀.2 hmain, hturns]
      · refine .inl ⟨?_, fun g hg => ?_⟩
        · have : e₀.isMain = false := by simpa [hmain] using hmain₀
          simp [turns, List.countP_append, this, hturns]
        · by_cases hgg : g = g₁
          · subst hgg
            obtain ⟨x', hx', hm, -⟩ := hg
            rw [hx] at hx'
            cases hx'
            exact absurd hm hmain
          · exact hkeep g hgg hg

/-! ### While the main line waits -/

theorem Silent.withQueue {d : Db} {g : Nat} (h : d.Silent g) {q : List Entry}
    (hq : ∀ e ∈ q, e ∈ d.queue) : Silent { d with queue := q } g :=
  ⟨fun e he => h.1 e (hq e he), fun g' x hx hout hw e he => h.2 g' x hx hout hw e (hq e he)⟩

theorem Poised.congr {d d' : Db} (h : d.Poised) (hq : d'.queue = d.queue)
    (hg : d'.gatherings = d.gatherings) : d'.Poised := by
  obtain ⟨hn, hs, ht⟩ := h
  have hopen : ∀ g, d'.Open g → d.Open g := fun g hg' => by rwa [Open, hg] at hg'
  exact ⟨hn.congr hq hg, fun g hg' => by
    have := hs g (hopen g hg')
    rwa [Silent, ← hq, ← hg] at this, by
    show d'.queue.countP Entry.isMain = 0
    rw [hq]
    exact ht⟩

theorem Waits.runFront {g₀ : Nat} {db db' : Db} (hn : db.Nested) (hw : db.Waits g₀)
    (hrun : db.runFront = some db') : db'.Waits g₀ := by
  refine ⟨fun g hne hg => ?_, ?_⟩
  · -- an open gathering was open before, hence silent, and a step keeps it so
    have hg₀ := Open.of_runFront hrun hg
    have hlt : g < db.gatherings.size := by
      obtain ⟨x, hx, -⟩ := hg₀
      exact (Array.getElem?_eq_some_iff.1 hx).1
    exact (Silent.runFront hn (hw.silent g hne hg₀) hlt hrun).1
  · rcases turns_runFront hrun with ⟨heq, hkeep⟩ | ⟨g, hg, hns, hclosed, hinc, -⟩
    · rcases hw.turn with ⟨h0, hopen⟩ | ⟨h1, hclosed⟩
      · exact .inl ⟨heq.trans h0, hkeep g₀ hopen⟩
      · exact .inr ⟨heq.trans h1, fun h => hclosed (Open.of_runFront hrun h)⟩
    · -- the gathering that ended and queued the turn was not silent, so it was `g₀`
      have hgg : g = g₀ := by
        by_contra hne
        exact hns (hw.silent g hne hg)
      subst hgg
      rcases hw.turn with ⟨h0, -⟩ | ⟨-, hclosed'⟩
      · exact .inr ⟨by omega, hclosed⟩
      · exact absurd hg hclosed'

theorem Waits.stop {g₀ : Nat} {d : Db} (hn : d.Nested) (hw : d.Waits g₀)
    (hstop : d.runFront = none) :
    Poised { d with queue := d.queue.drop 1 } ∧ (d.queue = [] ∨ ¬ d.Open g₀) := by
  rcases runFront_eq_none hstop with hq | ⟨rest, hq⟩
  · refine ⟨⟨hn.withQueue (by simp [hq]), fun g _ => ⟨by simp [hq], by simp [hq]⟩,
      by simp [turns, hq]⟩, .inl hq⟩
  · -- the queued turn is the one `g₀` queued when it ended
    rcases hw.turn with ⟨h0, -⟩ | ⟨h1, hclosed⟩
    · simp [turns, hq, Entry.isMain] at h0
    · have hrest : rest.countP Entry.isMain = 0 := by
        have h1' : (Entry.resumeMain :: rest).countP Entry.isMain = 1 := hq ▸ h1
        rw [List.countP_cons] at h1'
        simpa [Entry.isMain] using h1'
      have hdrop : ∀ e ∈ d.queue.drop 1, e ∈ d.queue := fun e he => List.mem_of_mem_drop he
      refine ⟨⟨hn.withQueue hdrop, fun g hg => ?_, ?_⟩, .inr hclosed⟩
      · have hne : g ≠ g₀ := by
          rintro rfl
          exact hclosed hg
        exact (hw.silent g hne hg).withQueue hdrop
      · show (d.queue.drop 1).countP Entry.isMain = 0
        rw [hq]
        exact hrest

/-- Giving way keeps the store poised: no gathering of the main line can end meanwhile, so the
turn the main line queued is the one it takes. -/
theorem Poised.pause {db : Db} (h : db.Poised) : db.pause.Poised := by
  obtain ⟨d, hrun, -, hstop, heq⟩ := pause_stops h.nested
  -- no gathering of the main line has the index past the last
  have hnone : ¬ (db.enqueue .resumeMain).Open db.gatherings.size := by
    rintro ⟨x, hx, -⟩
    rw [show (db.enqueue .resumeMain).gatherings = db.gatherings from rfl,
      Array.getElem?_eq_none (Nat.le_refl _)] at hx
    cases hx
  have hstart : (db.enqueue .resumeMain).Waits db.gatherings.size := by
    have h0 : db.queue.countP Entry.isMain = 0 := h.turns
    refine ⟨fun g _ hg => ?_, .inr ⟨?_, hnone⟩⟩
    swap
    · show (db.queue ++ [Entry.resumeMain]).countP Entry.isMain = 1
      simp [List.countP_append, h0, Entry.isMain]
    have hs := h.silent g hg
    refine ⟨fun e he => ?_, fun g' x hx hout hw e he => ?_⟩
    · rcases List.mem_append.1 he with he | he
      · exact hs.1 e he
      · simp [List.mem_singleton.1 he, Entry.refs]
    · rcases List.mem_append.1 he with he | he
      · exact hs.2 g' x hx hout hw e he
      · simp [List.mem_singleton.1 he, Entry.refs]
  obtain ⟨hn, hw⟩ := Runs.preserve (fun hn hw hr => Waits.runFront hn hw hr) hrun
    (h.nested.append (q := [.resumeMain]) (by simp [Entry.refs])) hstart
  rw [heq]
  exact (hw.stop hn hstop).1

theorem Waits.start {db : Db} (h : db.Poised) (works : List Work) :
    (db.openGathering works .main).1.Waits db.gatherings.size := by
  rw [openGathering_eq]
  have hpush : ∀ g, g < db.gatherings.size →
      (db.gatherings.push ⟨works.length, 0, none, .main⟩)[g]? = db.gatherings[g]? :=
    fun g hg => by rw [Array.getElem?_push, if_neg (Nat.ne_of_lt hg)]
  refine ⟨fun g hne hg => ?_, .inl ⟨?_, ⟨_, Array.getElem?_push_size, rfl, rfl⟩⟩⟩
  · obtain ⟨x, hx, hmain, hout⟩ := hg
    simp only [Array.getElem?_push, if_neg hne] at hx
    have hlt := (Array.getElem?_eq_some_iff.1 hx).1
    have hs := h.silent g ⟨x, hx, hmain, hout⟩
    refine ⟨fun e he hge => ?_, fun g' x' hx' hout' hw e he hge => ?_⟩
    · rcases List.mem_append.1 he with he | he
      · exact hs.1 e he hge
      · obtain ⟨wk, -, rfl⟩ := List.mem_map.1 he
        simp only [Entry.refs, List.mem_singleton] at hge
        omega
    · simp only [Array.getElem?_push] at hx'
      split at hx'
      · -- the new gathering's waiter is the main line, which reports nowhere
        cases hx'
        simp [Waiter.refs] at hw
      · rcases List.mem_append.1 he with he | he
        · exact hs.2 g' x' hx' hout' hw e he hge
        · obtain ⟨wk, -, rfl⟩ := List.mem_map.1 he
          simp only [Entry.refs, List.mem_singleton] at hge
          contradiction
  · simpa [turns, List.countP_append, Entry.isMain] using h.turns

theorem gather_waits {db : Db} (h : db.Poised) (works : List Work) :
    ∃ d, Runs (db.openGathering works .main).1 d ∧ d.Nested ∧ d.Waits db.gatherings.size ∧
      d.runFront = none ∧
      gather works db = (d.failedGathering db.gatherings.size, { d with queue := d.queue.drop 1 }) := by
  obtain ⟨d, hrun, -, hstop, heq⟩ := gather_stops h.nested works
  obtain ⟨hn, hw⟩ := Runs.preserve (fun hn hw hr => Waits.runFront hn hw hr) hrun
    (h.nested.openGathering works (by simp [Waiter.refs]) (.inl rfl)) (Waits.start h works)
  exact ⟨d, hrun, hn, hw, hstop, heq⟩

theorem Poised.gather {db : Db} (h : db.Poised) (works : List Work) :
    (gather works db).2.Poised := by
  obtain ⟨d, -, hn, hw, hstop, heq⟩ := gather_waits h works
  rw [heq]
  exact (hw.stop hn hstop).1

theorem Poised.settleAll {db : Db} (h : db.Poised) : db.settleAll.Poised := by
  have hq := settleAll_queue h.nested
  have hn : db.settleAll.Nested :=
    (StepInvariant.runAll ⟨fun h hr => (lowers_runFront h hr).nested, fun h hq => h.withQueue hq⟩
      db.fuel) h.nested
  refine ⟨hn, fun g _ => ⟨by simp [hq], by simp [hq]⟩, ?_⟩
  show db.settleAll.queue.countP Entry.isMain = 0
  rw [hq]
  rfl

theorem Poised.attempt {db : Db} (h : db.Poised) (m : StoreMethod) : (db.attempt m).1.Poised := by
  obtain ⟨plans, hatt⟩ := attempt_fst db m
  rw [hatt]
  exact h.congr rfl rfl

theorem Poised.call {α : Type} {db : Db} (h : db.Poised) (m : StoreMethod)
    (op : Collection → Except Failure α) : (Db.call m op db).2.Poised := by
  have hs := h.attempt m
  unfold Db.call
  rcases hA : db.attempt m with ⟨db', f⟩
  rw [hA] at hs
  cases f <;> exact hs

theorem Poised.read {α : Type} {db : Db} (h : db.Poised) (m : StoreMethod)
    (op : Collection → Except Failure α) : (Db.read m op db).2.Poised := by
  have hs := h.call m op
  unfold Db.read
  rw [bind_apply]
  rcases hC : Db.call m op db with ⟨r, db'⟩
  rw [hC] at hs
  dsimp only at hs ⊢
  split
  · split
    · exact hs.pause.call m op
    · exact hs
  · exact hs

theorem Poised.write {α : Type} {db : Db} (h : db.Poised) (m : StoreMethod)
    (op : Collection → Collection × Except Failure α) : (Db.write m op db).2.Poised := by
  have hs := h.attempt m
  unfold Db.write
  rcases hA : db.attempt m with ⟨db', f⟩
  rw [hA] at hs
  cases f with
  | some f => exact hs
  | none => exact hs.congr rfl rfl

/-! ### Waiting for one write -/

/-- Where the wait for the gathering `g₀` of one write stands: the write still queued and alone,
or run, with nothing in flight writing. -/
def WritePhase (g₀ : Nat) (m : StoreMethod) (op : Collection → Collection) (c₀ : Collection)
    (d : Db) : Prop :=
  (d.coll = c₀ ∧ d.Open g₀ ∧
    (∀ (g : Nat) (x : Gathering), d.gatherings[g]? = some x → g₀ ∉ x.waiter.refs) ∧
    ∃ pre post, d.queue = pre ++ .step (.write m op) (some g₀) :: post ∧
      ∀ e ∈ pre ++ post, e.WritesNothing ∧ g₀ ∉ e.refs) ∨
  ((d.coll = c₀ ∨ d.coll = op c₀) ∧ ∀ e ∈ d.queue, e.WritesNothing)

theorem WritePhase.runFront {g₀ : Nat} {m : StoreMethod} {op : Collection → Collection}
    {c₀ : Collection} {db db' : Db} (h : WritePhase g₀ m op c₀ db)
    (hrun : db.runFront = some db') : WritePhase g₀ m op c₀ db' := by
  obtain ⟨E, rest, q, hq, hq', hnew⟩ := runFront_queue hrun
  rcases h with ⟨hc, hopen, hwait, pre, post, hqueue, hpre⟩ | ⟨hc, hreads⟩
  · cases pre with
    | nil =>
      rw [List.nil_append, hq] at hqueue
      cases hqueue
      refine .inr ⟨?_, fun e he => ?_⟩
      · rcases runFront_coll_write hrun hq with h' | h' <;> rw [h', hc]
        · exact .inl rfl
        · exact .inr rfl
      · rw [hq'] at he
        rcases List.mem_append.1 he with he | he
        · exact (hpre e (by simp [he])).1
        · exact (hnew e he).1
    | cons E' pre =>
      rw [List.cons_append, hq] at hqueue
      cases hqueue
      have hE := hpre E (by simp)
      have hlt : g₀ < db.gatherings.size := by
        obtain ⟨x, hx, -⟩ := hopen
        exact (Array.getElem?_eq_some_iff.1 hx).1
      -- what the step queues reports neither to `g₀` nor to a gathering reporting to it
      have hq₀ : ∀ e ∈ q, e.WritesNothing ∧ g₀ ∉ e.refs := by
        intro e he
        refine ⟨(hnew e he).1, fun hg => ?_⟩
        rcases (hnew e he).2 g₀ hg with hE' | hsize | ⟨g₁, failed, x, -, hx, hw⟩
        · exact hE.2 hE'
        · omega
        · exact hwait g₁ x hx hw
      have hkeep : db'.gatherings[g₀]? = db.gatherings[g₀]? :=
        runFront_gathering hrun hlt fun failed rest' hsettle => by
          rw [hq] at hsettle
          cases hsettle
          exact hE.2 (by simp [Entry.refs])
      refine .inl ⟨(runFront_coll hrun hq hE.1).trans hc, ?_, fun g x' hx' => ?_,
        pre, post ++ q, ?_, fun e he => ?_⟩
      · obtain ⟨x, hx, hmain, hout⟩ := hopen
        exact ⟨x, hkeep.trans hx, hmain, hout⟩
      · rcases runFront_waiter hrun hx' with ⟨x, hx, hw⟩ | ⟨jobs, check, p, rest', hfan, hw⟩
        · rw [← hw]
          exact hwait g x hx
        · rw [hq] at hfan
          cases hfan
          rw [hw]
          intro hg
          apply hE.2
          cases p with
          | none => simp [Waiter.refs] at hg
          | some p => simpa [Waiter.refs, Entry.refs] using hg
      · rw [hq']
        simp
      · simp only [List.mem_append] at he
        rcases he with he | he | he
        · exact hpre e (by simp [he])
        · exact hpre e (by simp [he])
        · exact hq₀ e he
  · -- after the write nothing writes, so the collection stays
    have hE := hreads E (by simp [hq])
    refine .inr ⟨(runFront_coll hrun hq hE).symm ▸ hc, fun e he => ?_⟩
    rw [hq'] at he
    rcases List.mem_append.1 he with he | he
    · exact hreads e (by simp [hq, he])
    · exact (hnew e he).1

/-- The main line waiting for one write, with nothing in flight that writes: when it goes on,
the write has run, nothing in flight writes, the store is poised, and the collection is as it
was or as the write left it. -/
theorem Poised.gather_write {db : Db} (h : db.Poised) (hreads : ∀ e ∈ db.queue, e.WritesNothing)
    (m : StoreMethod) (op : Collection → Collection) :
    (Db.gather [.write m op] db).2.Poised ∧ (∀ e ∈ (Db.gather [.write m op] db).2.queue, e.WritesNothing) ∧
      ((Db.gather [.write m op] db).2.coll = db.coll ∨ (Db.gather [.write m op] db).2.coll = op db.coll) := by
  obtain ⟨d, hrun, hn, hw, hstop, heq⟩ := gather_waits h [.write m op]
  have hstart : WritePhase db.gatherings.size m op db.coll (db.openGathering [.write m op] .main).1 := by
    rw [openGathering_eq]
    refine .inl ⟨rfl, ⟨_, Array.getElem?_push_size, rfl, rfl⟩, fun g x hx => ?_, db.queue, [], ?_,
      fun e he => ?_⟩
    · -- no gathering reports to the new one: the old ones report to older ones
      simp only [Array.getElem?_push] at hx
      split at hx
      · cases hx
        simp [Waiter.refs]
      · intro hg
        have hlt := (h.nested.waiters g x.waiter (by simp [waiterAt, hx]) _ hg).1
        omega
    · simp
    · simp only [List.append_nil] at he
      exact ⟨hreads e he, fun hg => by
        have := h.nested.refs e he _ hg
        omega⟩
  obtain ⟨-, hphase⟩ := Runs.preserve (I := WritePhase db.gatherings.size m op db.coll)
    (fun _ hph hr => hph.runFront hr) hrun
    (h.nested.openGathering _ (by simp [Waiter.refs]) (.inl rfl)) hstart
  obtain ⟨hpoised, hend⟩ := hw.stop hn hstop
  rw [heq]
  rcases hphase with ⟨-, hopen, -, pre, post, hq, -⟩ | ⟨hc, hreads'⟩
  · -- the write still queued would leave the queue with no turn to take
    exfalso
    rcases hend with hempty | hclosed
    · rw [hq] at hempty
      simp at hempty
    · exact hclosed hopen
  · exact ⟨hpoised, fun e he => hreads' e (List.mem_of_mem_drop he), hc⟩

end Db

end AuditTrail
