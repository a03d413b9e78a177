import AuditTrail.Access.Route

/-!
# Classifying administrative paths

`AdminAction.ofPath` is the segment-by-segment reading `AdminAction.intended` for every path
(`admin_action_of_path`). The proof looks at a path only through its view (`Route.view`), of
which there are finitely many.
-/

namespace AuditTrail

namespace AdminAction

def ofLogsPage (page : String) : AdminAction :=
  if page = "export" then .exportLogs
  else if page = "statistics" then .viewStatistics
  else if page = "critical" then .viewCriticalEvents
  else if page = "health" then .systemHealthCheck
  else if page = "cleanup" then .cleanupLogs
  else .viewSpecificLog

/-- The action the route table is meant to give the segments of a path. -/
def intended : List String → AdminAction
  | a :: b :: rest =>
    if a = "admin" ∧ b = "logs" then (rest.head?.map ofLogsPage).getD .queryLogs
    else if a = "admin" ∧ b = "dashboard" then .viewDashboard
    else .unknown
  | _ => .unknown

end AdminAction

namespace Route

/-! ### Matching one route -/

@[simp] theorem fits_nil_pattern (a : AdminAction) (segs : List String) :
    (⟨[], a⟩ : Route).fits segs = true := by
  simp [fits]

@[simp] theorem fits_cons_nil (p : Segment) (ps : List Segment) (a : AdminAction) :
    (⟨p :: ps, a⟩ : Route).fits [] = false := by
  simp [fits]

@[simp] theorem fits_cons_cons (p : Segment) (ps : List Segment) (a : AdminAction) (s : String)
    (ss : List String) :
    (⟨p :: ps, a⟩ : Route).fits (s :: ss) = (p.accepts s && (⟨ps, a⟩ : Route).fits ss) := by
  simp only [fits, List.length_cons, Nat.add_le_add_iff_right, List.zipWith_cons_cons,
    List.all_cons, id]
  cases p.accepts s <;> simp

/-! ### The most specific match -/

theorem rankAbove_irrefl (a : Nat × Nat) : rankAbove a a = false := by
  simp [rankAbove]

theorem eq_of_not_rankAbove {a b : Nat × Nat} (hab : rankAbove a b = false)
    (hba : rankAbove b a = false) : a = b := by
  obtain ⟨a₁, a₂⟩ := a
  obtain ⟨b₁, b₂⟩ := b
  simp only [rankAbove, Bool.or_eq_false_iff, decide_eq_false_iff_not, Bool.and_eq_false_imp,
    beq_iff_eq] at hab hba
  have h₁ : a₁ = b₁ := by omega
  subst h₁
  have h₂ : a₂ = b₂ := by
    have := hab.2 rfl
    have := hba.2 rfl
    omega
  rw [h₂]

theorem rankAbove_trans {a b c : Nat × Nat} (hab : rankAbove a b = true)
    (hbc : rankAbove b c = true) : rankAbove a c = true := by
  simp only [rankAbove, Bool.or_eq_true, decide_eq_true_eq, Bool.and_eq_true, beq_iff_eq] at *
  omega

theorem best_eq_none_iff (segs : List String) (l : List Route) :
    best segs l = none ↔ ∀ r ∈ l, r.fits segs = false := by
  induction l with
  | nil => simp [best]
  | cons r rs ih =>
    simp only [best, List.mem_cons, forall_eq_or_imp]
    cases hr : r.fits segs with
    | true =>
      simp only [if_true, Bool.true_eq_false, false_and, iff_false]
      split <;> (try split) <;> simp
    | false => simp [ih]

/-- The route `best` picks matches the path, and no matching route of the list outranks it. -/
theorem best_spec {segs : List String} {l : List Route} {r : Route} (h : best segs l = some r) :
    r ∈ l ∧ r.fits segs = true ∧ ∀ q ∈ l, q.fits segs = true → rankAbove q.rank r.rank = false := by
  induction l generalizing r with
  | nil => cases h
  | cons p ps ih =>
    simp only [best] at h
    by_cases hp : p.fits segs = true
    · rw [if_pos hp] at h
      cases hrest : best segs ps with
      | none =>
        rw [hrest] at h
        rw [← Option.some.inj h]
        have hnone := (best_eq_none_iff segs ps).1 hrest
        refine ⟨List.mem_cons_self, hp, fun x hx hxfit => ?_⟩
        rcases List.mem_cons.1 hx with hxp | hx
        · rw [hxp]
          exact rankAbove_irrefl _
        · simp [hnone x hx] at hxfit
      | some q =>
        rw [hrest] at h
        dsimp only at h
        obtain ⟨hq, hqfit, hqmax⟩ := ih hrest
        by_cases habove : rankAbove q.rank p.rank = true
        · -- the rest's choice outranks the head, hence everything the head does not outrank
          rw [if_pos habove] at h
          rw [← Option.some.inj h]
          refine ⟨List.mem_cons_of_mem _ hq, hqfit, fun x hx hxfit => ?_⟩
          rcases List.mem_cons.1 hx with hxp | hx
          · rw [hxp]
            cases hpq : rankAbove p.rank q.rank with
            | false => rfl
            | true => simpa [rankAbove_irrefl] using rankAbove_trans hpq habove
          · exact hqmax x hx hxfit
        · rw [if_neg habove] at h
          rw [← Option.some.inj h]
          refine ⟨List.mem_cons_self, hp, fun x hx hxfit => ?_⟩
          rcases List.mem_cons.1 hx with hxp | hx
          · rw [hxp]
            exact rankAbove_irrefl _
          · cases hxp : rankAbove x.rank p.rank with
            | false => rfl
            | true =>
              -- the head is not below `q`, so a route above the head would be above `q`
              have hxq := hqmax x hx hxfit
              have hqp : rankAbove q.rank p.rank = false := by simpa using habove
              cases hpq : rankAbove p.rank q.rank with
              | true => simp [rankAbove_trans hxp hpq] at hxq
              | false => simp [eq_of_not_rankAbove hqp hpq, hxp] at hxq
    · rw [if_neg hp] at h
      obtain ⟨hr, hrfit, hrmax⟩ := ih h
      refine ⟨List.mem_cons_of_mem _ hr, hrfit, fun x hx hxfit => ?_⟩
      rcases List.mem_cons.1 hx with hxp | hx
      · rw [hxp] at hxfit
        exact absurd hxfit hp
      · exact hrmax x hx hxfit

def RanksApart (segs : List String) (l : List Route) : Prop :=
  ∀ r ∈ l, ∀ q ∈ l, r.fits segs = true → q.fits segs = true → r.rank = q.rank → r = q

theorem best_eq_of_mem_iff {segs : List String} {l l' : List Route} (hl : RanksApart segs l)
    (hmem : ∀ r, r ∈ l ↔ r ∈ l') : best segs l = best segs l' := by
  cases h : best segs l with
  | none =>
    have hnone := (best_eq_none_iff segs l).1 h
    exact ((best_eq_none_iff segs l').2 fun r hr => hnone r ((hmem r).2 hr)).symm
  | some r =>
    obtain ⟨hr, hrfit, hrmax⟩ := best_spec h
    cases h' : best segs l' with
    | none =>
      have := (best_eq_none_iff segs l').1 h' r ((hmem r).1 hr)
      simp [hrfit] at this
    | some q =>
      obtain ⟨hq, hqfit, hqmax⟩ := best_spec h'
      have hqr := hrmax q ((hmem q).2 hq) hqfit
      have hrq := hqmax r ((hmem r).1 hr) hrfit
      rw [hl r hr q ((hmem q).2 hq) hrfit hqfit (eq_of_not_rankAbove hrq hqr)]

/-! ### Routes that cannot match together -/

def clash : List Segment → List Segment → Bool
  | .lit s :: ps, .lit t :: qs => s != t || clash ps qs
  | _ :: ps, _ :: qs => clash ps qs
  | _, _ => false

theorem not_fits_of_clash {ps qs : List Segment} (h : clash ps qs = true) (a b : AdminAction)
    (segs : List String) (hp : (⟨ps, a⟩ : Route).fits segs = true) :
    (⟨qs, b⟩ : Route).fits segs = false := by
  induction ps, qs using clash.induct generalizing segs with
  | case1 s ps t qs ih =>
    cases segs with
    | nil => simp at hp
    | cons u segs =>
      simp only [fits_cons_cons, Segment.accepts, Bool.and_eq_true, beq_iff_eq] at hp ⊢
      obtain ⟨rfl, hp⟩ := hp
      simp only [clash, Bool.or_eq_true, bne_iff_ne, ne_eq] at h
      rcases h with hst | h
      · simp [Ne.symm hst]
      · simp [ih h segs hp]
  | case2 p ps q qs hlit ih =>
    cases segs with
    | nil => simp at hp
    | cons u segs =>
      have h' : clash ps qs = true := by
        cases p <;> cases q <;> simp_all [clash]
      simp only [fits_cons_cons, Bool.and_eq_true] at hp ⊢
      simp [ih h' segs hp.2]
  | case3 ps qs hcons => simp [clash] at h

theorem table_ranks_apart (segs : List String) : RanksApart segs table := by
  intro r hr q hq hrfit hqfit hrank
  have hcheck : ∀ r ∈ table, ∀ q ∈ table,
      r = q ∨ r.rank ≠ q.rank ∨ clash r.pattern q.pattern = true := by decide
  rcases hcheck r hr q hq with heq | hne | hclash
  · exact heq
  · exact absurd hrank hne
  · have := not_fits_of_clash hclash r.action q.action segs hrfit
    simp [hqfit] at this

/-! ### What matching sees of a path -/

def keep (ws : List String) (s : String) : String := if s ∈ ws then s else ""

def logsPages : List String := ["export", "statistics", "critical", "health", "cleanup"]

def keeps : List (List String) :=
  [["admin"], ["logs", "dashboard"], logsPages]

/-- What the table sees of a path: its first three segments, each kept or blanked. -/
def view (segs : List String) : List String := List.zipWith keep keeps segs

def Segment.within : Segment → List String → Bool
  | .lit t, ws => ws.contains t && t != ""
  | .any, _ => true

def sees : List Segment → List (List String) → Bool
  | [], _ => true
  | p :: ps, ws :: wss => Segment.within p ws && sees ps wss
  | _ :: _, [] => false

theorem accepts_keep {p : Segment} {ws : List String} (hp : Segment.within p ws = true)
    (s : String) : p.accepts (keep ws s) = p.accepts s := by
  cases p with
  | any => rfl
  | lit t =>
    simp only [Segment.within, Bool.and_eq_true, List.contains_iff_mem, bne_iff_ne,
      ne_eq] at hp
    unfold keep
    by_cases hs : s ∈ ws
    · rw [if_pos hs]
    · -- a blanked segment differs from the literal, and so did the segment itself
      have hts : t ≠ s := fun h => hs (h ▸ hp.1)
      rw [if_neg hs]
      simp only [Segment.accepts, beq_eq_false_iff_ne.2 hp.2, beq_eq_false_iff_ne.2 hts]

theorem fits_zipWith_keep {ps : List Segment} {wss : List (List String)}
    (h : sees ps wss = true) (a : AdminAction) (segs : List String) :
    (⟨ps, a⟩ : Route).fits (List.zipWith keep wss segs) = (⟨ps, a⟩ : Route).fits segs := by
  induction ps generalizing wss segs with
  | nil => simp
  | cons p ps ih =>
    cases wss with
    | nil => simp [sees] at h
    | cons ws wss =>
      simp only [sees, Bool.and_eq_true] at h
      cases segs with
      | nil => simp
      | cons s segs =>
        simp only [List.zipWith_cons_cons, fits_cons_cons, accepts_keep h.1, ih h.2]

theorem fits_view {r : Route} (hr : r ∈ table) (segs : List String) :
    r.fits (view segs) = r.fits segs := by
  have hsees : ∀ r ∈ table, sees r.pattern keeps = true := by decide
  exact fits_zipWith_keep (hsees r hr) r.action segs

theorem best_congr {segs segs' : List String} {l : List Route}
    (h : ∀ r ∈ l, r.fits segs = r.fits segs') : best segs l = best segs' l := by
  induction l with
  | nil => rfl
  | cons _ rs ih =>
    simp only [List.mem_cons, forall_eq_or_imp] at h
    simp only [best, h.1, ih h.2]

theorem best_view (segs : List String) : best (view segs) table = best segs table :=
  best_congr fun _ hr => fits_view hr segs

theorem keep_eq_iff {ws : List String} {t : String} (ht : t ∈ ws) (hne : t ≠ "") (s : String) :
    keep ws s = t ↔ s = t := by
  unfold keep
  by_cases hs : s ∈ ws
  · rw [if_pos hs]
  · rw [if_neg hs]
    exact ⟨fun h => absurd h.symm hne, fun h => absurd (h ▸ ht) hs⟩

theorem ofLogsPage_keep (s : String) :
    AdminAction.ofLogsPage (keep logsPages s) = AdminAction.ofLogsPage s := by
  have hne : ∀ t ∈ logsPages, t ≠ "" := by decide
  have hpage : ∀ t ∈ logsPages, (keep logsPages s = t ↔ s = t) := fun t ht =>
    keep_eq_iff ht (hne t ht) s
  simp only [AdminAction.ofLogsPage, hpage "export" (by decide), hpage "statistics" (by decide),
    hpage "critical" (by decide), hpage "health" (by decide), hpage "cleanup" (by decide)]

theorem intended_view (segs : List String) :
    AdminAction.intended (view segs) = AdminAction.intended segs := by
  match segs with
  | [] => rfl
  | [_] => rfl
  | a :: b :: rest =>
    have hadmin := keep_eq_iff (List.mem_singleton_self "admin") (by decide) a
    have hlogs := keep_eq_iff (by decide : "logs" ∈ ["logs", "dashboard"]) (by decide) b
    have hdash := keep_eq_iff (by decide : "dashboard" ∈ ["logs", "dashboard"]) (by decide) b
    cases rest with
    | nil => simp [view, keeps, AdminAction.intended, hadmin, hlogs, hdash]
    | cons c rest =>
      simp [view, keeps, AdminAction.intended, hadmin, hlogs, hdash, ofLogsPage_keep]

def choices : List (List String) → List (List String)
  | [] => [[]]
  | ws :: wss => [] :: (("" :: ws).flatMap fun s => (choices wss).map (s :: ·))

theorem zipWith_keep_mem_choices (wss : List (List String)) (segs : List String) :
    List.zipWith keep wss segs ∈ choices wss := by
  induction wss generalizing segs with
  | nil => simp [choices]
  | cons ws wss ih =>
    cases segs with
    | nil => simp [choices]
    | cons s segs =>
      have hs : keep ws s ∈ "" :: ws := by
        unfold keep
        by_cases h : s ∈ ws
        · rw [if_pos h]
          exact List.mem_cons_of_mem _ h
        · rw [if_neg h]
          exact List.mem_cons_self
      rw [List.zipWith_cons_cons, choices]
      exact List.mem_cons_of_mem _
        (List.mem_flatMap.2 ⟨keep ws s, hs, List.mem_map.2 ⟨_, ih segs, rfl⟩⟩)

end Route

/-- Classifying a path follows the route table's intent (`AdminAction.intended`), and no two
routes matching a path share a rank, so the table read in any order classifies alike. -/
theorem admin_action_of_path (path : String) :
    AdminAction.ofPath path = AdminAction.intended (pathSegments path) ∧
    Route.RanksApart (pathSegments path) Route.table ∧
    ∀ routes : List Route, routes.Perm Route.table →
      ((Route.best (pathSegments path) routes).map (·.action)).getD .unknown =
        AdminAction.ofPath path := by
  have hviews : ∀ v ∈ Route.choices Route.keeps,
      ((Route.best v Route.table).map (·.action)).getD .unknown = AdminAction.intended v := by
    decide
  refine ⟨?_, Route.table_ranks_apart _, fun routes hperm => ?_⟩
  · calc AdminAction.ofPath path
        = ((Route.best (Route.view (pathSegments path)) Route.table).map (·.action)).getD
            .unknown := by rw [Route.best_view]; rfl
      _ = AdminAction.intended (Route.view (pathSegments path)) :=
          hviews _ (Route.zipWith_keep_mem_choices _ _)
      _ = AdminAction.intended (pathSegments path) := Route.intended_view _
  · rw [AdminAction.ofPath, Route.best_eq_of_mem_iff (Route.table_ranks_apart _)
      (fun r => hperm.mem_iff.symm)]

end AuditTrail
