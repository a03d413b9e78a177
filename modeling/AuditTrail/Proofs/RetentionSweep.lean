import AuditTrail.Proofs.DailyStatistics
import AuditTrail.Proofs.SweepSelection

/-!
# The retention sweep

`purge n` refuses under one day, overflows before the first instant, or deletes exactly the
documents created before the cutoff; the reports whose windows start after it answer as before.
-/

namespace AuditTrail

open Collection

theorem Stamp.earlier_eq_ok {t u : Stamp} {us : Int} (h : t.earlier us = .ok u) :
    u = { t with wall := t.wall - us } := by
  unfold Stamp.earlier Stamp.later Stamp.shift at h
  by_cases hin : Stamp.inRange { t with wall := t.wall + -us } = true
  · simp only [hin, if_true, Except.ok.injEq] at h
    rw [← h, Int.sub_eq_add_neg]
  · simp only [hin, Bool.false_eq_true, if_false, reduceCtorEq] at h

theorem Stamp.days_earlier_overflow {t : Stamp} {n : Int} (h₀ : 0 ≤ n)
    (hlo : t.wall - n * microsPerDay < Stamp.minWall) :
    ∃ msg, (daysSpan (.int n) >>= t.earlier) = .error (.overflow msg) := by
  by_cases hmax : n ≤ Span.maxDays
  · rw [daysSpan_int h₀ hmax, Service.except_ok_bind]
    have hout : Stamp.inRange { t with wall := t.wall + -(n * microsPerDay) } = false := by
      simp only [Stamp.inRange, Bool.and_eq_false_iff, decide_eq_false_iff_not]
      omega
    exact ⟨"date value out of range", by simp [Stamp.earlier, Stamp.later, Stamp.shift, hout]⟩
  · have hdiv : n * microsPerDay / microsPerDay = n := Int.mul_ediv_cancel _ (by decide)
    simp only [Span.maxDays] at hmax
    have hspan : ∃ msg, daysSpan (.int n) = .error (.overflow msg) := by
      simp only [daysSpan, Numeric.ofValue?, Span.ofAmounts, Span.accumulate, Span.settle, bind,
        Except.bind, Span.check, zero_mul, zero_add, hdiv, Span.maxDays]
      by_cases hbig : 2147483647 < n
      · rw [if_pos (by omega)]
        exact ⟨_, rfl⟩
      · rw [if_neg (by omega), if_pos (by omega)]
        exact ⟨_, rfl⟩
    obtain ⟨msg, hmsg⟩ := hspan
    exact ⟨msg, by rw [hmsg]; rfl⟩

theorem Stamp.days_earlier_eq {t : Stamp} {n : Int} (h₀ : 0 ≤ n)
    (hlo : Stamp.minWall ≤ t.wall - n * microsPerDay) (hhi : t.wall ≤ Stamp.maxWall) :
    (daysSpan (.int n) >>= t.earlier) = .ok { t with wall := t.wall - n * microsPerDay } := by
  -- the representable years span fewer days than the limit of a span
  have hspan : Stamp.maxWall - Stamp.minWall < 4000000 * microsPerDay := by decide
  have hday : (0 : Int) < microsPerDay := by decide
  have hmax : n ≤ Span.maxDays := by
    simp only [Span.maxDays]
    nlinarith
  rw [daysSpan_int h₀ hmax]
  exact Stamp.earlier_eq hlo (by nlinarith)

theorem Numeric.int_lt_one (n : Int) :
    (Numeric.int n).toExact.lt (.finite 1 1) = decide (n < 1) := by
  by_cases hn : n < 1 <;> simp [Numeric.toExact, Exact.lt, Exact.cmp, compare_lt_iff_lt, hn]

namespace Service

theorem onDb_apply {α : Type} (x : StateM Db α) (sv : Service) :
    onDb x sv = ((x sv.db).1, { sv with db := (x sv.db).2 }) := rfl

/-- The service after a sweep of `cutoff`: its collection swept, all else as it was. -/
def sweep (sv : Service) (cutoff : Stamp) : Service :=
  { sv with db := { sv.db with coll := sv.db.coll.sweep cutoff } }

variable {sv : Service}

theorem sweep_quiet (hq : sv.db.Quiet) (cutoff : Stamp) : (sv.sweep cutoff).db.Quiet :=
  ⟨hq.noFault, hq.idle⟩

theorem purge_refused {n : Int} (hn : n < 1) :
    purge (.int n) sv =
      (.error (.invalidFilter "ageThresholdDays" "ageThresholdDays must be at least 1"), sv) := by
  unfold purge
  rw [show Numeric.comparable "<" (.int n) = .ok (.int n) from rfl]
  simp only []
  rw [if_pos (by rw [Numeric.int_lt_one]; exact decide_eq_true hn)]
  rfl

theorem purge_overflows {n : Int} (h₁ : 1 ≤ n)
    (hlo : sv.clock.wall - n * microsPerDay < Stamp.minWall) :
    ∃ msg, purge (.int n) sv = (.error (.overflow msg), sv) := by
  obtain ⟨msg, hmsg⟩ := Stamp.days_earlier_overflow (t := sv.clock) (by omega) hlo
  refine ⟨msg, ?_⟩
  unfold purge
  rw [show Numeric.comparable "<" (.int n) = .ok (.int n) from rfl]
  simp only []
  rw [if_neg (by rw [Numeric.int_lt_one]; simpa using h₁), now_bind_apply, hmsg]
  rfl

/-- A sweep with a representable cutoff fails with its generic failure, the collection as it
was, or answers with what its deletion counted. -/
theorem purge_cases {n : Int} (h₁ : 1 ≤ n)
    (hlo : Stamp.minWall ≤ sv.clock.wall - n * microsPerDay)
    (hhi : sv.clock.wall ≤ Stamp.maxWall) :
    let cutoff : Stamp := { sv.clock with wall := sv.clock.wall - n * microsPerDay }
    let cond : Cond := [.field "createdAt" [.below (.stamp cutoff)]]
    (∃ db' f, sv.db.attempt .deleteMany = (db', some f) ∧
      purge (.int n) sv =
        (.error (.queryFailed "could not complete cleanup"), { sv with db := db' }))
    ∨ ∃ db', sv.db.attempt .deleteMany = (db', none) ∧
      ((∃ f, sv.db.coll.deleteWhere cond = .error f ∧
        purge (.int n) sv =
          (.error (.queryFailed "could not complete cleanup"), { sv with db := db' }))
      ∨ ∃ c' k, sv.db.coll.deleteWhere cond = .ok (c', k) ∧
        purge (.int n) sv =
          (.ok ⟨k, n, cutoff⟩, { sv with db := { db' with coll := c' } })) := by
  intro cutoff cond
  obtain ⟨plans, hplans⟩ := Db.attempt_fst sv.db .deleteMany
  unfold purge
  rw [show Numeric.comparable "<" (.int n) = .ok (.int n) from rfl]
  simp only []
  rw [if_neg (by rw [Numeric.int_lt_one]; simpa using h₁), now_bind_apply,
    Stamp.days_earlier_eq (by omega) hlo hhi]
  dsimp only
  rw [Db.bind_apply, onDb_apply]
  unfold Db.write
  rcases hA : sv.db.attempt .deleteMany with ⟨db', _ | f⟩
  · -- no fault: the deletion runs on the collection, which the attempt left as it was
    rw [hA] at hplans
    dsimp only at hplans
    subst hplans
    refine .inr ⟨_, rfl, ?_⟩
    dsimp only
    cases hdel : sv.db.coll.deleteWhere cond with
    | error f => exact .inl ⟨f, rfl, rfl⟩
    | ok r =>
      obtain ⟨c', k⟩ := r
      exact .inr ⟨c', k, rfl, rfl⟩
  · exact .inl ⟨db', f, rfl, rfl⟩

theorem purge_outcome {n : Int} (h₁ : 1 ≤ n)
    (hlo : Stamp.minWall ≤ sv.clock.wall - n * microsPerDay)
    (hhi : sv.clock.wall ≤ Stamp.maxWall) :
    let cutoff : Stamp := { sv.clock with wall := sv.clock.wall - n * microsPerDay }
    ((purge (.int n) sv).1 = .error (.queryFailed "could not complete cleanup") ∧
      (purge (.int n) sv).2.db.coll = sv.db.coll) ∨
    ∃ k c', sv.db.coll.deleteWhere [.field "createdAt" [.below (.stamp cutoff)]] = .ok (c', k) ∧
      (purge (.int n) sv).1 = .ok ⟨k, n, cutoff⟩ ∧ (purge (.int n) sv).2.db.coll = c' := by
  intro cutoff
  -- a failure keeps the store the attempt left, and an attempt changes at most the plans
  have hfail : ∀ db' o, sv.db.attempt .deleteMany = (db', o) →
      purge (.int n) sv =
        (.error (.queryFailed "could not complete cleanup"), { sv with db := db' }) →
      (purge (.int n) sv).1 = .error (.queryFailed "could not complete cleanup") ∧
        (purge (.int n) sv).2.db.coll = sv.db.coll := fun db' o hA hp => by
    obtain ⟨plans, hplans⟩ := Db.attempt_fst sv.db .deleteMany
    rw [hA] at hplans
    rw [hp]
    exact ⟨rfl, by rw [show db' = _ from hplans]⟩
  rcases purge_cases h₁ hlo hhi with
    ⟨db', f, hA, hp⟩ | ⟨db', hA, ⟨f, -, hp⟩ | ⟨c', k, hdel, hp⟩⟩
  · exact .inl (hfail db' _ hA hp)
  · exact .inl (hfail db' _ hA hp)
  · rw [hp]
    exact .inr ⟨k, c', hdel, rfl, rfl⟩

/-- On a quiet store of documents with scalar creation fields, a sweep of at least one day with
a representable cutoff deletes exactly the documents created before the cutoff as the store
keeps it, and reports how many, with the threshold and the cutoff. -/
theorem purge_sweeps (hq : sv.db.Quiet) (hc : ∀ d ∈ sv.db.coll.docs, d.CreatedScalar) {n : Int}
    (h₁ : 1 ≤ n) (hlo : Stamp.minWall ≤ sv.clock.wall - n * microsPerDay)
    (hhi : sv.clock.wall ≤ Stamp.maxWall) :
    let cutoff : Stamp := { sv.clock with wall := sv.clock.wall - n * microsPerDay }
    purge (.int n) sv =
      (.ok ⟨(sv.db.coll.docs.filter (·.createdBefore cutoff)).length, n, cutoff⟩,
        sv.sweep cutoff) := by
  intro cutoff
  have hA := Db.attempt_eq hq.noFault .deleteMany
  rcases purge_cases h₁ hlo hhi with
    ⟨db', f, hA', -⟩ | ⟨db', hA', ⟨f, hdel, -⟩ | ⟨c', k, hdel, hp⟩⟩
  · rw [hA] at hA'
    cases hA'
  · rw [deleteWhere_below hc] at hdel
    cases hdel
  · rw [hA] at hA'
    cases hA'
    rw [deleteWhere_below hc] at hdel
    cases hdel
    exact hp

theorem checkRange_int_bind_ok {α : Type} {field : String} {k upper : Int}
    {g : Unit → Except Failure α} {r : α} (h : (checkRange field (.int k) upper >>= g) = .ok r) :
    (1 ≤ k ∧ k ≤ upper) ∧ g () = .ok r := by
  obtain ⟨u, hcheck, hg⟩ := bind_eq_ok.1 h
  rw [checkRange_int] at hcheck
  by_cases hr : k < 1 ∨ upper < k
  · rw [if_pos hr] at hcheck
    cases hcheck
  · exact ⟨by omega, hg⟩

section Swept

variable (hq : sv.db.Quiet) (hnaive : sv.clock.offset = none) {n : Int}
include hq hnaive

theorem purge_after_sweep (hc : ∀ d ∈ sv.db.coll.docs, d.CreatedScalar) (h₁ : 1 ≤ n)
    {m : Int} (hnm : n ≤ m) (hlo : Stamp.minWall ≤ sv.clock.wall - m * microsPerDay)
    (hhi : sv.clock.wall ≤ Stamp.maxWall) :
    let swept := sv.sweep { sv.clock with wall := sv.clock.wall - n * microsPerDay }
    purge (.int m) swept =
      (.ok ⟨0, m, { sv.clock with wall := sv.clock.wall - m * microsPerDay }⟩, swept) := by
  intro swept
  let later : Stamp := { sv.clock with wall := sv.clock.wall - m * microsPerDay }
  have hmn : n * microsPerDay ≤ m * microsPerDay :=
    Int.mul_le_mul_of_nonneg_right hnm (by decide)
  have hkept : ∀ d ∈ swept.db.coll.docs, d.createdBefore later = false := by
    intro d hd
    rw [show swept.db.coll.docs = _ from docs_sweep] at hd
    have hn := (List.mem_filter.1 hd).2
    cases hb : d.createdBefore later with
    | false => rfl
    | true =>
      have hfirst := Record.createdBefore_mono (s := later)
        (t := { sv.clock with wall := sv.clock.wall - n * microsPerDay })
        (Stamp.toStored_utc_le hnaive hnaive (by dsimp only [later]; omega)) hb
      simp [hfirst] at hn
  have hdocs : ∀ d ∈ swept.db.coll.docs, d.CreatedScalar := fun d hd => by
    rw [show swept.db.coll.docs = _ from docs_sweep] at hd
    exact hc d (List.mem_filter.1 hd).1
  have hagain : purge (.int m) swept =
      (.ok ⟨(swept.db.coll.docs.filter (·.createdBefore later)).length, m, later⟩,
        swept.sweep later) :=
    purge_sweeps (sweep_quiet hq _) hdocs (by omega) hlo hhi
  have hsame : swept.sweep later = swept := by
    unfold sweep
    rw [Collection.sweep_eq_self hkept]
  rw [hagain, List.filter_eq_nil_iff.2 fun d hd => by simp [hkept d hd], hsame]
  rfl

theorem statistics_after_sweep {k : Int} (hk : k ≤ n) :
    (statistics (.int k) (sv.sweep { sv.clock with wall := sv.clock.wall - n * microsPerDay })).1 =
      (statistics (.int k) sv).1 := by
  refine statistics_congr (sweep_quiet hq _) hq rfl (.int k) fun since hE => ?_
  obtain ⟨hr, hspan⟩ := checkRange_int_bind_ok hE
  simp only [maxDaysBack] at hr
  rw [daysSpan_int (by omega) (by simp only [Span.maxDays]; omega), Service.except_ok_bind]
    at hspan
  obtain rfl := Stamp.earlier_eq_ok hspan
  have hkn : k * microsPerDay ≤ n * microsPerDay := Int.mul_le_mul_of_nonneg_right hk (by decide)
  exact select_window_sweep (by exact hnaive) (by exact hnaive) (by dsimp only [sweep]; omega) _

theorem critical_after_sweep {h : Int} (hh : h ≤ 24 * n) :
    (critical (.int h) (sv.sweep { sv.clock with wall := sv.clock.wall - n * microsPerDay })).1 =
      (critical (.int h) sv).1 := by
  refine critical_congr (sweep_quiet hq _) hq rfl (.int h) fun since hE => ?_
  obtain ⟨hr, hspan⟩ := checkRange_int_bind_ok hE
  simp only [maxWindowHours] at hr
  rw [hoursSpan_int (by omega) (by simp only [Span.maxDays]; omega), Service.except_ok_bind]
    at hspan
  obtain rfl := Stamp.earlier_eq_ok hspan
  have hhn : h * microsPerHour ≤ n * microsPerDay := by
    have hday : microsPerDay = 24 * microsPerHour := rfl
    have hpos : (0 : Int) ≤ microsPerHour := by decide
    calc h * microsPerHour ≤ (24 * n) * microsPerHour := Int.mul_le_mul_of_nonneg_right hh hpos
      _ = n * microsPerDay := by rw [hday]; ring
  exact select_errorSince_sweep (by exact hnaive) (by exact hnaive) (by dsimp only [sweep]; omega)

theorem health_after_sweep (h₁ : 1 ≤ n) (actor : String) :
    (health actor (sv.sweep { sv.clock with wall := sv.clock.wall - n * microsPerDay })).1 =
      (health actor sv).1 := by
  have hhour : microsPerHour ≤ n * microsPerDay := by
    have hday : microsPerHour ≤ microsPerDay := by decide
    have hpos : (0 : Int) ≤ microsPerDay := by decide
    nlinarith
  refine health_congr (sweep_quiet hq _) hq rfl actor (fun since hE => ?_) (fun since hE => ?_)
  · rw [show Span.ofHours 1 = .ok microsPerHour from rfl, Service.except_ok_bind] at hE
    obtain rfl := Stamp.earlier_eq_ok hE
    exact select_since_sweep (by exact hnaive) (by exact hnaive) (by dsimp only [sweep]; omega)
  · rw [hoursSpan_int (by omega) (by simp only [Span.maxDays]; omega), Service.except_ok_bind,
      Int.one_mul] at hE
    obtain rfl := Stamp.earlier_eq_ok hE
    exact select_errorSince_sweep (by exact hnaive) (by exact hnaive) (by dsimp only [sweep]; omega)

theorem query_after_sweep (q : Listing) (x : Bool) {s : Stamp} (hstart : q.startDate = some s)
    (hs : s.offset = none) (hle : sv.clock.wall - n * microsPerDay ≤ s.wall) :
    (query q x).run' (sv.sweep { sv.clock with wall := sv.clock.wall - n * microsPerDay }) =
      (query q x).run' sv :=
  query_run'_congr (sweep_quiet hq _) hq q x
    (select_listing_sweep hs (by exact hnaive) hle x hstart)

end Swept

end Service

/-- The retention sweep deletes exactly the documents created before its cutoff, and afterwards a
second sweep deletes nothing and every report whose window starts after the cutoff answers as
before. -/
theorem purge_sweeps_expired_events (sv : Service) :
    (∀ n : Int, n < 1 → Service.purge (.int n) sv =
      (.error (.invalidFilter "ageThresholdDays" "ageThresholdDays must be at least 1"), sv)) ∧
    (∀ n : Int, 1 ≤ n → sv.clock.wall - n * microsPerDay < Stamp.minWall →
      ∃ msg, Service.purge (.int n) sv = (.error (.overflow msg), sv)) ∧
    (∀ n : Int, 1 ≤ n → Stamp.minWall ≤ sv.clock.wall - n * microsPerDay →
      sv.clock.wall ≤ Stamp.maxWall →
      let cutoff : Stamp := { sv.clock with wall := sv.clock.wall - n * microsPerDay }
      ((Service.purge (.int n) sv).1 = .error (.queryFailed "could not complete cleanup") ∧
        (Service.purge (.int n) sv).2.db.coll = sv.db.coll) ∨
      ∃ k c', sv.db.coll.deleteWhere [.field "createdAt" [.below (.stamp cutoff)]] =
          .ok (c', k) ∧
        (Service.purge (.int n) sv).1 = .ok ⟨k, n, cutoff⟩ ∧
        (Service.purge (.int n) sv).2.db.coll = c') ∧
    (sv.db.Quiet → sv.clock.offset = none → (∀ d ∈ sv.db.coll.docs, d.CreatedScalar) →
      ∀ n : Int, 1 ≤ n → Stamp.minWall ≤ sv.clock.wall - n * microsPerDay →
      sv.clock.wall ≤ Stamp.maxWall →
      let cutoff : Stamp := { sv.clock with wall := sv.clock.wall - n * microsPerDay }
      let swept := sv.sweep cutoff
      Service.purge (.int n) sv =
        (.ok ⟨(sv.db.coll.docs.filter (·.createdBefore cutoff)).length, n, cutoff⟩, swept) ∧
      (∀ m : Int, n ≤ m → Stamp.minWall ≤ sv.clock.wall - m * microsPerDay →
        Service.purge (.int m) swept =
          (.ok ⟨0, m, { sv.clock with wall := sv.clock.wall - m * microsPerDay }⟩, swept)) ∧
      (∀ k : Int, k ≤ n →
        (Service.statistics (.int k) swept).1 = (Service.statistics (.int k) sv).1) ∧
      (∀ h : Int, h ≤ 24 * n →
        (Service.critical (.int h) swept).1 = (Service.critical (.int h) sv).1) ∧
      (∀ actor, (Service.health actor swept).1 = (Service.health actor sv).1) ∧
      (∀ (q : Listing) (x : Bool) (s : Stamp), q.startDate = some s → s.offset = none →
        cutoff.wall ≤ s.wall →
          (Service.query q x).run' swept = (Service.query q x).run' sv)) := by
  refine ⟨fun n hn => Service.purge_refused hn,
    fun n h₁ hlo => Service.purge_overflows h₁ hlo,
    fun n h₁ hlo hhi => Service.purge_outcome h₁ hlo hhi, ?_⟩
  intro hq hnaive hc n h₁ hlo hhi
  exact ⟨Service.purge_sweeps hq hc h₁ hlo hhi,
    fun m hnm hlom => Service.purge_after_sweep hq hnaive hc h₁ hnm hlom hhi,
    fun k hk => Service.statistics_after_sweep hq hnaive hk,
    fun h hh => Service.critical_after_sweep hq hnaive hh,
    fun actor => Service.health_after_sweep hq hnaive h₁ actor,
    fun q x s hstart hs hle => Service.query_after_sweep hq hnaive q x hstart hs hle⟩

def mixedAgeEvents : Service where
  db := { coll := { entries := [
    (.objectId 1, [("_id", .objectId 1), ("level", .str "info"),
      ("createdAt", .stamp ⟨1709812800000000, none⟩)]),
    (.objectId 2, [("_id", .objectId 2), ("level", .str "info")]),
    (.objectId 3, [("_id", .objectId 3), ("level", .str "warn"),
      ("createdAt", .str "2024-01-01T00:00:00")]),
    (.objectId 4, [("_id", .objectId 4), ("level", .str "error"),
      ("createdAt", .stamp ⟨1718449200000000, none⟩)])], nextId := 5 } }
  clock := ⟨1718452800000000, none⟩

/-- A sweep of ninety days of `mixedAgeEvents` deletes the one event created before its cutoff,
and leaves the reports within the ninety days as they were. -/
theorem purge_ninety_days_of_mixed_events :
    let cutoff : Stamp :=
      { mixedAgeEvents.clock with wall := mixedAgeEvents.clock.wall - 90 * microsPerDay }
    let swept := mixedAgeEvents.sweep cutoff
    Service.purge (.int 90) mixedAgeEvents = (.ok ⟨1, 90, cutoff⟩, swept) ∧
    (∀ m : Int, 90 ≤ m → Stamp.minWall ≤ mixedAgeEvents.clock.wall - m * microsPerDay →
      Service.purge (.int m) swept = (.ok ⟨0, m,
        { mixedAgeEvents.clock with wall := mixedAgeEvents.clock.wall - m * microsPerDay }⟩,
        swept)) ∧
    (∀ k : Int, k ≤ 90 →
      (Service.statistics (.int k) swept).1 = (Service.statistics (.int k) mixedAgeEvents).1) ∧
    (∀ h : Int, h ≤ 24 * 90 →
      (Service.critical (.int h) swept).1 = (Service.critical (.int h) mixedAgeEvents).1) ∧
    (∀ actor, (Service.health actor swept).1 = (Service.health actor mixedAgeEvents).1) ∧
    (∀ (q : Listing) (x : Bool) (s : Stamp), q.startDate = some s → s.offset = none →
      cutoff.wall ≤ s.wall →
        (Service.query q x).run' swept = (Service.query q x).run' mixedAgeEvents) := by
  intro cutoff swept
  have hq : mixedAgeEvents.db.Quiet := ⟨(fun _ _ hp => by cases hp), rfl⟩
  have hc : ∀ d ∈ mixedAgeEvents.db.coll.docs, d.CreatedScalar := fun d hd => by
    simp only [mixedAgeEvents, Collection.docs, List.map, List.mem_cons, List.not_mem_nil,
      or_false] at hd
    rcases hd with rfl | rfl | rfl | rfl <;> intro v hv <;> cases hv <;>
      exact ⟨trivial, fun _ h => by cases h⟩
  have hcount : (mixedAgeEvents.db.coll.docs.filter (·.createdBefore cutoff)).length = 1 := by
    decide
  obtain ⟨hpurge, hrest⟩ := (purge_sweeps_expired_events mixedAgeEvents).2.2.2 hq rfl hc 90
    (by decide) (by decide) (by decide)
  exact ⟨hcount ▸ hpurge, hrest⟩

/-- The store keeps the cutoff cut to its millisecond: a sweep of a day spares an event created
half a millisecond before the clock moved back a day, and reports that it deleted nothing. -/
theorem purge_spares_event_in_cutoff_millisecond :
    Service.purge (.int 1) earlyInfoEvent = (.ok ⟨0, 1,
      { earlyInfoEvent.clock with wall := earlyInfoEvent.clock.wall - microsPerDay }⟩,
      earlyInfoEvent) ∧
    ∀ d ∈ earlyInfoEvent.db.coll.docs, ∃ t : Stamp, d.get? "createdAt" = some (.stamp t) ∧
      t.utc < earlyInfoEvent.clock.utc - microsPerDay := by
  have hdoc : ∀ d ∈ earlyInfoEvent.db.coll.docs, d = [("_id", .objectId 1),
      ("level", .str "info"), ("createdAt", .stamp ⟨1718366400000000, none⟩)] := fun d hd => by
    simpa only [earlyInfoEvent, Collection.docs, List.map, List.mem_singleton] using hd
  have hq : earlyInfoEvent.db.Quiet := ⟨(fun _ _ hp => by cases hp), rfl⟩
  have hpurge := Service.purge_sweeps hq
    (fun d hd => by rw [hdoc d hd]; exact Record.createdScalar_of_stamp rfl) (n := 1)
    (by decide) (by decide) (by decide)
  rw [Int.one_mul] at hpurge
  have hkept : ∀ d ∈ earlyInfoEvent.db.coll.docs, d.createdBefore
      { earlyInfoEvent.clock with wall := earlyInfoEvent.clock.wall - microsPerDay } =
        false := fun d hd => by
    rw [hdoc d hd]
    decide
  refine ⟨?_, fun d hd => by rw [hdoc d hd]; exact ⟨_, rfl, by decide⟩⟩
  rw [hpurge, List.filter_eq_nil_iff.2 fun d hd => by rw [hkept d hd]; decide]
  unfold Service.sweep
  rw [Collection.sweep_eq_self hkept]
  rfl

end AuditTrail
