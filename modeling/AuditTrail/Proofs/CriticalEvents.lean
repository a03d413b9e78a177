import AuditTrail.Proofs.CreationWindows

/-!
# Critical events and the health of the log

On a listable store the critical events and the health check say exactly what the store holds
(`Service.critical_listable`, `Service.health_listable`).
-/

namespace AuditTrail

open Collection

/-! ### Alert levels and health -/

@[simp] theorem Exact.gtInt_ofInt (n m : Int) : (Exact.ofInt n).gtInt m = decide (m < n) := by
  by_cases h : m < n <;>
    simp [Exact.gtInt, Exact.ofInt, Exact.cmp, compare_gt_iff_gt, h]

namespace AlertLevel

def rank : AlertLevel → Nat
  | .low => 0
  | .medium => 1
  | .high => 2

theorem ofCount_ofInt (n : Int) :
    ofCount (.ofInt n) = if 50 < n then .high else if 10 < n then .medium else .low := by
  by_cases h50 : 50 < n
  · simp [ofCount, thresholds, h50]
  · by_cases h10 : 10 < n <;> simp [ofCount, thresholds, h50, h10]

theorem rank_ofCount_le {n m : Int} (h : n ≤ m) :
    (ofCount (.ofInt n)).rank ≤ (ofCount (.ofInt m)).rank := by
  rw [ofCount_ofInt, ofCount_ofInt]
  split_ifs <;> simp [rank] <;> omega

theorem ofCount_min {n cap : Int} (hcap : 50 < cap) :
    ofCount (.ofInt (min n cap)) = ofCount (.ofInt n) := by
  rcases le_total n cap with h | h
  · rw [min_eq_left h]
  · rw [min_eq_right h, ofCount_ofInt, ofCount_ofInt, if_pos hcap, if_pos (by omega)]

end AlertLevel

namespace HealthStatus

variable (a : AlertLevel) (quiet : Bool)

theorem judge_eq_critical_iff : judge (some a) quiet = .critical ↔ a = .high := by
  cases a <;> cases quiet <;> simp [judge]

theorem judge_eq_warning_iff :
    judge (some a) quiet = .warning ↔ a ≠ .high ∧ (a = .medium ∨ quiet = true) := by
  cases a <;> cases quiet <;> simp [judge]

theorem judge_eq_healthy_iff : judge (some a) quiet = .healthy ↔ a = .low ∧ quiet = false := by
  cases a <;> cases quiet <;> simp [judge]

theorem advice_ne_nil (status : Option HealthStatus) (critical : Exact) :
    advice status quiet critical ≠ [] := by
  have hsteps : ∀ steps : List String,
      (if steps.isEmpty then ["System working normally"] else steps) ≠ [] := by
    intro steps
    cases steps <;> simp
  exact hsteps _

theorem normal_mem_advice_iff (n : Nat) :
    "System working normally" ∈
        advice (some (judge (some (AlertLevel.ofCount (.ofInt n))) quiet)) quiet (.ofInt n) ↔
      judge (some (AlertLevel.ofCount (.ofInt n))) quiet = .healthy ∧ n = 0 := by
  rw [AlertLevel.ofCount_ofInt]
  by_cases h50 : (50 : Int) < n
  · simp [judge, advice, h50]
  by_cases h10 : (10 : Int) < n
  · cases quiet <;> simp [judge, advice, h50, h10]
  by_cases h0 : n = 0
  · cases quiet <;> simp [judge, advice, h0]
  · cases quiet <;> simp [judge, advice, h50, h10, h0]

end HealthStatus

/-- What a health report must say of its own numbers: critical events within the events and the
cap, their alert, and the status and advice that alert and a quiet hour give. -/
structure HealthReport.Consistent (r : HealthReport) : Prop where
  critical_le : r.criticalLastHour ≤ min r.eventsLastHour criticalLimit
  alert : r.alert = AlertLevel.ofCount (.ofInt r.criticalLastHour)
  critical_iff : r.status = .critical ↔ r.alert = .high
  warning_iff : r.status = .warning ↔ r.alert = .medium ∨ r.eventsLastHour = 0
  healthy_iff : r.status = .healthy ↔ r.alert = .low ∧ 0 < r.eventsLastHour
  advice_ne_nil : r.recommendations ≠ []
  normal_iff : "System working normally" ∈ r.recommendations ↔
    r.status = .healthy ∧ r.criticalLastHour = 0

theorem HealthReport.consistent {r : HealthReport}
    (hle : r.criticalLastHour ≤ min r.eventsLastHour criticalLimit)
    (halert : r.alert = AlertLevel.ofCount (.ofInt r.criticalLastHour))
    (hstatus : r.status = HealthStatus.judge (some r.alert) (r.eventsLastHour == 0))
    (hadvice : r.recommendations =
      HealthStatus.advice (some r.status) (r.eventsLastHour == 0) (.ofInt r.criticalLastHour)) :
    r.Consistent := by
  have hquiet : r.eventsLastHour = 0 → r.alert = .low := fun h0 => by
    have hc : r.criticalLastHour = 0 := by
      have := hle.trans (min_le_left _ _)
      omega
    rw [halert, hc]
    rfl
  refine ⟨hle, halert, ?_, ?_, ?_, ?_, ?_⟩
  · rw [hstatus, HealthStatus.judge_eq_critical_iff]
  · rw [hstatus, HealthStatus.judge_eq_warning_iff]
    constructor
    · rintro ⟨-, h | h⟩
      · exact .inl h
      · exact .inr (by simpa using h)
    · rintro (h | h)
      · exact ⟨by rw [h]; simp, .inl h⟩
      · exact ⟨by rw [hquiet h]; simp, .inr (by simpa using h)⟩
  · rw [hstatus, HealthStatus.judge_eq_healthy_iff]
    simp [Nat.pos_iff_ne_zero]
  · rw [hadvice]
    exact HealthStatus.advice_ne_nil _ _ _
  · rw [hadvice, hstatus, halert]
    exact HealthStatus.normal_mem_advice_iff _ _

/-! ### The reads on a listable store -/

namespace Service

variable {sv : Service}

theorem Listable.order_filter (hsv : sv.Listable) (P : Record → Bool) :
    ∃ ys, order newestFirst (sv.db.coll.docs.filter P) = .ok ys ∧
      ys.Perm (sv.db.coll.docs.filter P) ∧
      ys.Pairwise fun a b => keysBefore newestFirst a b = true := by
  have hid : (sv.db.coll.docs.filter P).Pairwise IdsApart :=
    (hsv.idsDistinct.imp_of_mem fun ha hb hab =>
      (hsv.listed _ ha).exportable.idsApart ((hsv.listed _ hb).exportable) hab).filter _
  exact order_newestFirst_strict (fun d hd => (hsv.listed d (List.mem_filter.1 hd).1).exportable) hid

theorem Listable.stamps (hsv : sv.Listable) :
    ∀ d ∈ sv.db.coll.docs, ∃ u, d.get? "createdAt" = some (.stamp u) := fun d hd => by
  obtain ⟨t, ht, -⟩ := (hsv.listed d hd).createdAt
  exact ⟨t, ht⟩

theorem Listable.select_errorSince (hsv : sv.Listable) (since : Stamp) :
    sv.db.coll.select [.field "level" [.eq (.str Level.error.text)],
        .field "createdAt" [.atLeast (.stamp since)]] =
      .ok (sv.db.coll.docs.filter fun d => d.hasLevel .error && d.createdSince since) :=
  select_of_stamps_eq hsv.stamps (by simp [Clause.StampWindow, Test.compares]) fun d hd _ hu =>
    Cond.selects_levelSince hu ((hsv.listed d hd).readable.textual "level" (by simp [textPaths]))
      .error since

theorem criticalEvents_listable (hsv : sv.Listable) {hours : Value} {since : Stamp}
    (hsince : (hoursSpan hours >>= sv.clock.earlier) = .ok since) :
    ∃ (ys : List Record) (views : List EventView), ys.Perm (sv.db.coll.docs.filter fun d => d.hasLevel .error && d.createdSince since) ∧
      (ys.Pairwise fun a b => keysBefore newestFirst a b = true) ∧
      (ys.take criticalLimit).mapM EventView.ofDocument = .ok views ∧
      criticalEvents hours sv = (.ok views, sv) := by
  obtain ⟨ys, hord, hperm, hsorted⟩ :=
    hsv.order_filter fun d => d.hasLevel .error && d.createdSince since
  have hfind := find_eq (hsv.select_errorSince since) hord 0 (by decide : criticalLimit ≠ 0)
  rw [List.drop_zero] at hfind
  obtain ⟨views, hviews⟩ := mapM_eq_ok_of_forall EventView.ofDocument (ys.take criticalLimit)
    fun d hd => (hsv.listed d (List.mem_filter.1 (hperm.mem_iff.1 (List.mem_of_mem_take hd))).1).view
  refine ⟨ys, views, hperm, hsorted, hviews, ?_⟩
  unfold criticalEvents
  rw [now_bind_apply, hsince]
  dsimp only
  rw [Db.bind_apply, Repo.findRecent, onDb_read_of_quiet hsv.quiet, hfind]
  exact congrArg (·, sv) hviews

theorem hoursSpan_earlier {n : Int} (h₀ : 0 ≤ n) (h₁ : n ≤ 168)
    (hlo : Stamp.minWall ≤ sv.clock.wall - n * microsPerHour) (hhi : sv.clock.wall ≤ Stamp.maxWall) :
    (hoursSpan (.int n) >>= sv.clock.earlier) =
      .ok { sv.clock with wall := sv.clock.wall - n * microsPerHour } := by
  have hpos : (0 : Int) ≤ n * microsPerHour := Int.mul_nonneg h₀ (by decide)
  rw [hoursSpan_int h₀ (by simp only [Span.maxDays]; omega)]
  exact Stamp.earlier_eq hlo (by omega)

/-- The critical events of a window of one to 168 hours on a listable store: the first
`criticalLimit` of its error events, strictly newest first, with the window and the alert of
their number; the store stays as it is. -/
theorem critical_listable (hsv : sv.Listable) {n : Int} (h₁ : 1 ≤ n) (h₁₆₈ : n ≤ 168)
    (hlo : Stamp.minWall ≤ sv.clock.wall - n * microsPerHour) (hhi : sv.clock.wall ≤ Stamp.maxWall) :
    let since : Stamp := { sv.clock with wall := sv.clock.wall - n * microsPerHour }
    ∃ (ys : List Record) (views : List EventView), ys.Perm (sv.db.coll.docs.filter fun d => d.hasLevel .error && d.createdSince since) ∧
      (ys.Pairwise fun a b => keysBefore newestFirst a b = true) ∧
      (ys.take criticalLimit).mapM EventView.ofDocument = .ok views ∧
      critical (.int n) sv =
        (.ok ⟨views, n, AlertLevel.ofCount (.ofInt views.length)⟩, sv) := by
  intro since
  obtain ⟨ys, views, hperm, hsorted, hviews, hcrit⟩ :=
    criticalEvents_listable hsv (hoursSpan_earlier (by omega) h₁₆₈ hlo hhi)
  refine ⟨ys, views, hperm, hsorted, hviews, ?_⟩
  have hrange : checkRange "windowHours" (.int n) maxWindowHours = .ok () := by
    rw [checkRange_int, if_neg (by simp only [maxWindowHours]; omega)]
  unfold critical
  rw [hrange]
  dsimp only
  rw [Db.bind_apply, hcrit]
  rfl

theorem critical_refused {n : Int} (hn : n < 1 ∨ 168 < n) :
    critical (.int n) sv =
      (.error (.invalidFilter "windowHours" "windowHours must be between 1 and 168"), sv) := by
  unfold critical
  rw [checkRange_int, if_pos (by simp only [maxWindowHours]; exact hn)]
  rfl

theorem health_listable (hsv : sv.Listable) (hlo : Stamp.minWall ≤ sv.clock.wall - microsPerHour)
    (hhi : sv.clock.wall ≤ Stamp.maxWall) (actor : String) :
    let since : Stamp := { sv.clock with wall := sv.clock.wall - microsPerHour }
    let E := sv.db.coll.docs.filter (·.createdSince since)
    ∃ r : HealthReport, health actor sv = (.ok r, sv) ∧ r.eventsLastHour = E.length ∧
      r.criticalLastHour = min (E.filter (·.hasLevel .error)).length criticalLimit ∧
      FirstBy (fun s u => u.utc ≤ s.utc) (createdStamps E) r.lastEventAt ∧
      r.alert = AlertLevel.ofCount (.ofInt r.criticalLastHour) ∧
      r.status = HealthStatus.judge (some r.alert) (r.eventsLastHour == 0) ∧
      r.recommendations =
        HealthStatus.advice (some r.status) (r.eventsLastHour == 0) (.ofInt r.criticalLastHour) ∧
      r.checkedAt = sv.clock ∧ r.performedBy = actor := by
  intro since E
  have hhour : (0 : Int) ≤ microsPerHour := by decide
  have hsince : (Span.ofHours 1 >>= sv.clock.earlier) = .ok since :=
    Stamp.earlier_eq hlo (by omega)
  have hcritSince : (hoursSpan (.int 1) >>= sv.clock.earlier) = .ok since := by
    rw [hoursSpan_earlier (by decide) (by decide) (by simpa using hlo) hhi]
    simp [since]
  obtain ⟨cs, views, hcperm, -, hviews, hcrit⟩ := criticalEvents_listable hsv hcritSince
  have hC : sv.db.coll.docs.filter (fun d => d.hasLevel .error && d.createdSince since) =
      E.filter (·.hasLevel .error) := by
    simp only [E, List.filter_filter]
  have hcount : views.length = min (E.filter (·.hasLevel .error)).length criticalLimit := by
    rw [length_of_mapM_eq_ok hviews, List.length_take, hcperm.length_eq, hC, Nat.min_comm]
  obtain ⟨ys, hord, hperm, hsorted⟩ := hsv.order_filter (·.createdSince since)
  have hfind := find_eq (select_since hsv.stamps since) hord 0 (by decide : (1 : Nat) ≠ 0)
  rw [List.drop_zero] at hfind
  have hstamps : ∀ d ∈ ys, ∃ t, d.get? "createdAt" = some (.stamp t) := fun d hd =>
    hsv.stamps d (List.mem_filter.1 (hperm.mem_iff.1 hd)).1
  have hhead : (ys.take 1).head?.bind (·.get? "createdAt") =
      (ys.head?.bind createdStamp?).map Value.stamp := by
    cases ys with
    | nil => rfl
    | cons y rest =>
      obtain ⟨t, ht⟩ := hstamps y List.mem_cons_self
      simp [ht, Record.createdStamp?_of_stamp ht]
  have hlast : FirstBy (fun s u => u.utc ≤ s.utc) (createdStamps E) (ys.head?.bind createdStamp?) :=
    (firstBy_head_createdStamp hstamps hsorted).perm (hperm.filterMap _)
  unfold health
  rw [now_bind_apply, hsince]
  dsimp only
  rw [Db.bind_apply, Repo.count, onDb_read_of_quiet hsv.quiet,
    count_eq (select_since hsv.stamps since)]
  dsimp only
  rw [Db.bind_apply, Repo.findRecent, onDb_read_of_quiet hsv.quiet, hfind]
  dsimp only
  rw [Db.bind_apply, hcrit]
  dsimp only
  rw [hhead]
  cases hl : ys.head?.bind createdStamp? <;> rw [hl] at hlast <;> refine ⟨_, rfl, ?_⟩ <;>
    dsimp only <;> exact ⟨rfl, hcount, hlast, rfl, rfl, rfl, rfl, rfl⟩

end Service

/-- The critical events and the health check agree with the store and with each other.

The alert of `n` critical events is high above 50 and medium above 10, it never falls as `n`
grows, and a cap of `criticalLimit` events never changes it. A window outside one to 168 hours
is refused before the store is read. Whatever faults are planned, while the work in flight only
reads, each report answers what it answers with no fault, or fails with its generic failure.

On a listable store, with the clock far enough from the first representable instant:
* the critical events of `n` hours are the first `criticalLimit` of the error events `C`
  created since the clock moved back `n` hours, as the store keeps that bound (cut to the
  millisecond), strictly newest first; their number is `min(|C|, criticalLimit)` and their alert
  that of `|C|`;
* the health check counts the events `E` of the last hour, takes the error events of `E` up to
  the cap as its critical events, reports the latest creation stamp of `E` as its last event
  (none exactly when `E` is empty), and is consistent (`HealthReport.Consistent`). -/
theorem critical_health_agree (sv : Service) (actor : String) :
    (∀ n : Int, AlertLevel.ofCount (.ofInt n) =
      if 50 < n then .high else if 10 < n then .medium else .low) ∧
    (∀ n m : Int, n ≤ m → (AlertLevel.ofCount (.ofInt n)).rank ≤ (AlertLevel.ofCount (.ofInt m)).rank) ∧
    (∀ n : Int, AlertLevel.ofCount (.ofInt (min n criticalLimit)) = AlertLevel.ofCount (.ofInt n)) ∧
    (∀ n : Int, n < 1 ∨ 168 < n → Service.critical (.int n) sv =
      (.error (.invalidFilter "windowHours" "windowHours must be between 1 and 168"), sv)) ∧
    (∀ n : Int, Service.ToleratesFaults [.queryFailed "could not complete critical events query"]
      (Service.critical (.int n))) ∧
    Service.ToleratesFaults [.queryFailed "could not complete health check",
      .queryFailed "could not complete critical events query"] (Service.health actor) ∧
    (sv.Listable →
      (∀ n : Int, 1 ≤ n → n ≤ 168 → Stamp.minWall ≤ sv.clock.wall - n * microsPerHour →
        sv.clock.wall ≤ Stamp.maxWall →
        let C := sv.db.coll.docs.filter fun d => d.hasLevel .error &&
          d.createdSince { sv.clock with wall := sv.clock.wall - n * microsPerHour }
        ∃ (ys : List Record) (views : List EventView), ys.Perm C ∧
          (ys.Pairwise fun a b => keysBefore newestFirst a b = true) ∧
          (ys.take criticalLimit).mapM EventView.ofDocument = .ok views ∧
          views.length = min C.length criticalLimit ∧
          AlertLevel.ofCount (.ofInt views.length) = AlertLevel.ofCount (.ofInt C.length) ∧
          Service.critical (.int n) sv =
            (.ok ⟨views, n, AlertLevel.ofCount (.ofInt views.length)⟩, sv)) ∧
      (Stamp.minWall ≤ sv.clock.wall - microsPerHour → sv.clock.wall ≤ Stamp.maxWall →
        let E := sv.db.coll.docs.filter
          (·.createdSince { sv.clock with wall := sv.clock.wall - microsPerHour })
        ∃ r : HealthReport, Service.health actor sv = (.ok r, sv) ∧ r.eventsLastHour = E.length ∧
          r.criticalLastHour = min (E.filter (·.hasLevel .error)).length criticalLimit ∧
          FirstBy (fun s u => u.utc ≤ s.utc) (createdStamps E) r.lastEventAt ∧
          (r.lastEventAt = none ↔ r.eventsLastHour = 0) ∧ r.Consistent ∧
          r.checkedAt = sv.clock ∧ r.performedBy = actor)) := by
  refine ⟨AlertLevel.ofCount_ofInt, fun _ _ h => AlertLevel.rank_ofCount_le h,
    fun _ => AlertLevel.ofCount_min (by decide), fun _ hn => Service.critical_refused hn,
    fun n => Service.critical_toleratesFaults (.int n), Service.health_toleratesFaults actor,
    fun hsv => ⟨fun n h₁ h₁₆₈ hlo hhi => ?_, fun hlo hhi => ?_⟩⟩
  · obtain ⟨ys, views, hperm, hsorted, hviews, hcrit⟩ := Service.critical_listable hsv h₁ h₁₆₈ hlo hhi
    have hlen : views.length = min (sv.db.coll.docs.filter fun d => d.hasLevel .error &&
        d.createdSince { sv.clock with wall := sv.clock.wall - n * microsPerHour }).length
        criticalLimit := by
      rw [length_of_mapM_eq_ok hviews, List.length_take, hperm.length_eq, Nat.min_comm]
    refine ⟨ys, views, hperm, hsorted, hviews, hlen, ?_, hcrit⟩
    rw [hlen, Nat.cast_min]
    exact AlertLevel.ofCount_min (by decide)
  · obtain ⟨r, hr, hevents, hcrit, hlast, halert, hstatus, hadvice, hchecked, hby⟩ :=
      Service.health_listable hsv hlo hhi actor
    have hstamps : ∀ d ∈ sv.db.coll.docs.filter
        (·.createdSince { sv.clock with wall := sv.clock.wall - microsPerHour }),
        ∃ u, d.get? "createdAt" = some (.stamp u) := fun d hd =>
      hsv.stamps d (List.mem_filter.1 hd).1
    have hle : r.criticalLastHour ≤ min r.eventsLastHour criticalLimit := by
      rw [hcrit, hevents]
      exact min_le_min_right _ (List.length_filter_le _ _)
    refine ⟨r, hr, hevents, hcrit, hlast, ?_, HealthReport.consistent hle halert hstatus hadvice,
      hchecked, hby⟩
    rw [hlast.1, hevents, ← length_createdStamps hstamps, List.length_eq_zero_iff]

def lastHourEvents : Service where
  db := { coll := { entries := [
    (.objectId 1, [("_id", .objectId 1), ("level", .str "error"), ("action", .str "login"),
      ("message", .str "a"), ("createdAt", .stamp ⟨1718451000000000, none⟩)]),
    (.objectId 2, [("_id", .objectId 2), ("level", .str "info"), ("action", .str "login"),
      ("message", .str "b"), ("createdAt", .stamp ⟨1718451900000000, none⟩)])], nextId := 3 } }
  clock := ⟨1718452800000000, none⟩

theorem lastHourEvents_listable : lastHourEvents.Listable := by
  have hid : ∀ d : Record, d.keyValue "_id" = (d.get? "_id").getD .null := fun d =>
    Record.keyValue_sortPath d (by simp [sortPaths])
  refine ⟨⟨(fun _ _ hp => by cases hp), rfl⟩, fun d hd => ?_, ?_, by decide⟩
  · simp only [lastHourEvents, Collection.docs, List.map, List.mem_cons, List.not_mem_nil,
      or_false] at hd
    rcases hd with rfl | rfl
    all_goals exact ⟨⟨_, rfl⟩, ⟨_, rfl, rfl⟩, by rw [hid]; trivial, by rw [hid]; trivial⟩
  · simp only [lastHourEvents, Collection.docs, List.map, List.pairwise_cons, List.mem_cons,
      List.not_mem_nil, or_false, forall_eq, false_implies, implies_true, List.Pairwise.nil,
      and_true, hid]
    decide +kernel

/-- At 12:00, with an error event of 11:30 and an info event of 11:45: the critical events of
the last day are the error event, with a low alert, and the health check counts two events and
one critical event and finds the log healthy. -/
theorem critical_health_agree_last_hour :
    lastHourEvents.Listable ∧
      (∃ c : CriticalEvents, (Service.critical (.int 24) lastHourEvents).1 = .ok c ∧
        c.events.length = 1 ∧ c.alert = .low) ∧
      ∃ r : HealthReport, Service.health "admin" lastHourEvents = (.ok r, lastHourEvents) ∧
        r.eventsLastHour = 2 ∧ r.criticalLastHour = 1 ∧ r.status = .healthy := by
  have hsv := lastHourEvents_listable
  obtain ⟨-, -, -, -, -, -, hlisted⟩ := critical_health_agree lastHourEvents "admin"
  obtain ⟨hcritical, hhealth⟩ := hlisted hsv
  obtain ⟨ys, views, -, -, -, hlen, -, hcrit⟩ :=
    hcritical 24 (by decide) (by decide) (by decide) (by decide)
  have hviews : views.length = 1 := by
    rw [hlen]
    decide
  obtain ⟨r, hr, hevents, hcount, -, -, hcons, -, -⟩ := hhealth (by decide) (by decide)
  have h2 : r.eventsLastHour = 2 := by
    rw [hevents]
    decide
  have h1 : r.criticalLastHour = 1 := by
    rw [hcount]
    decide
  refine ⟨hsv, ⟨_, congrArg Prod.fst hcrit, hviews, by rw [hviews]; rfl⟩, r, hr, h2, h1,
    hcons.healthy_iff.2 ⟨by rw [hcons.alert, h1]; rfl, by omega⟩⟩

def earlyErrorEvent : Service where
  db := { coll := { entries := [(.objectId 1, [("_id", .objectId 1), ("level", .str "error"),
    ("action", .str "login"), ("message", .str "m"),
    ("createdAt", .stamp ⟨1718449200000000, none⟩)])], nextId := 2 } }
  clock := ⟨1718452800000500, none⟩

theorem earlyErrorEvent_listable : earlyErrorEvent.Listable := by
  have hid : ∀ d : Record, d.keyValue "_id" = (d.get? "_id").getD .null := fun d =>
    Record.keyValue_sortPath d (by simp [sortPaths])
  refine ⟨⟨(fun _ _ hp => by cases hp), rfl⟩, fun d hd => ?_, List.pairwise_singleton _ _,
    by decide⟩
  simp only [earlyErrorEvent, Collection.docs, List.map, List.mem_singleton] at hd
  subst hd
  exact ⟨⟨_, rfl⟩, ⟨_, rfl, rfl⟩, by rw [hid]; trivial, by rw [hid]; trivial⟩

/-- The store cuts the start of a window to its millisecond: an error event created half a
millisecond before the clock moved back an hour is a critical event of that hour. -/
theorem critical_window_admits_earlier_event :
    ∃ c : CriticalEvents, (Service.critical (.int 1) earlyErrorEvent).1 = .ok c ∧
      c.events.length = 1 ∧
      ∀ d ∈ earlyErrorEvent.db.coll.docs, ∃ t : Stamp, d.get? "createdAt" = some (.stamp t) ∧
        t.utc < earlyErrorEvent.clock.utc - microsPerHour := by
  obtain ⟨ys, views, hperm, -, hviews, hcrit⟩ :=
    Service.critical_listable earlyErrorEvent_listable (n := 1) (by decide) (by decide)
      (by decide) (by decide)
  refine ⟨_, congrArg Prod.fst hcrit, ?_, ?_⟩
  · show views.length = 1
    rw [length_of_mapM_eq_ok hviews, List.length_take, hperm.length_eq]
    decide
  · intro d hd
    simp only [earlyErrorEvent, Collection.docs, List.map, List.mem_singleton] at hd
    subst hd
    exact ⟨_, rfl, by decide⟩

end AuditTrail
