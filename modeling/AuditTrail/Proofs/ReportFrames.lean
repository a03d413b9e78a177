import AuditTrail.Proofs.CreationWindows

/-!
# Reports see the collection only through their selections

Two quiet services with one clock whose collections select alike under a report's conditions get
the same answer from it.
-/

namespace AuditTrail

namespace Collection

variable {c₁ c₂ : Collection} {cond : Cond} (h : c₁.select cond = c₂.select cond)
include h

theorem find_congr (keys : List SortKey) (skip limit : Nat) :
    c₁.find cond keys skip limit = c₂.find cond keys skip limit := by
  unfold find
  rw [h]

theorem count_congr : c₁.count cond = c₂.count cond := by
  unfold count
  rw [h]

theorem levelCounts_congr : c₁.levelCounts cond = c₂.levelCounts cond := by
  unfold levelCounts
  rw [h]

theorem distinctCount_congr (path : String) :
    c₁.distinctCount cond path = c₂.distinctCount cond path := by
  unfold distinctCount distinct
  rw [h]

theorem createdRange_congr : c₁.createdRange cond = c₂.createdRange cond := by
  unfold createdRange
  rw [h]

end Collection

theorem Collection.dailyLevelCounts_congr {c₁ c₂ : Collection} {since upto : Stamp}
    (h : c₁.select [.field "createdAt" [.atLeast (.stamp since), .atMost (.stamp upto)]] =
      c₂.select [.field "createdAt" [.atLeast (.stamp since), .atMost (.stamp upto)]]) :
    c₁.dailyLevelCounts since upto = c₂.dailyLevelCounts since upto := by
  unfold dailyLevelCounts
  dsimp only
  rw [h]

namespace Service

open Collection

theorem query_run'_of_reads_fail {sv : Service} {q : Listing} {x : Bool}
    (hsv : sv.db.OnlyReads fun _ => True)
    (hfail : ¬ ∃ docs total counts users range summary,
      sv.db.coll.find (q.toFilters.cond x) q.sortKeys ((q.page - 1) * q.pageSize) q.pageSize =
        .ok docs ∧
      sv.db.coll.count (q.toFilters.cond x) = .ok total ∧
      sv.db.coll.levelCounts (q.toFilters.cond x) = .ok counts ∧
      sv.db.coll.distinctCount (q.toFilters.cond x) "userId" = .ok users ∧
      sv.db.coll.createdRange (q.toFilters.cond x) = .ok range ∧
      Summary.ofReads counts users range = .ok summary) :
    (query q x).run' sv = .error (.queryFailed queryFailedText) := by
  unfold query
  rw [onDb_bind_run']
  generalize hG : Db.gather _ sv.db = G
  -- the gathering only reads, so the reads after it see the collection as it was
  have hcoll : G.2.coll = sv.db.coll := by
    rw [← hG]
    refine (Db.OnlyReads.gather Db.plansKeep_true hsv fun w hw => ?_).2
    simp only [List.mem_cons, List.not_mem_nil, or_false] at hw
    rcases hw with rfl | rfl | rfl <;> trivial
  obtain ⟨failed, db'⟩ := G
  rw [get_bind_run']
  dsimp only at hcoll ⊢
  rw [hcoll]
  cases failed
  · rw [if_neg Bool.false_ne_true]
    generalize hR : (sv.db.coll.find _ _ _ _ >>= _ : Except Failure _) = R
    cases R with
    | error f => rfl
    | ok v =>
      exfalso
      simp only [bind_eq_ok] at hR
      obtain ⟨docs, hfind, total, hcount, summary, ⟨counts, hcounts, users, husers, range,
        hrange, hsummary⟩, -⟩ := hR
      exact hfail ⟨docs, total, counts, users, range, summary, hfind, hcount, hcounts, husers,
        hrange, hsummary⟩
  · rfl

section Quiet

variable {sv₁ sv₂ : Service} (hq₁ : sv₁.db.Quiet) (hq₂ : sv₂.db.Quiet)
include hq₁ hq₂

theorem statistics_congr (hclock : sv₁.clock = sv₂.clock) (v : Value)
    (hsel : ∀ since, (checkRange "daysBack" v maxDaysBack >>= fun _ =>
        daysSpan v >>= sv₁.clock.earlier) = .ok since →
      sv₁.db.coll.select
          [.field "createdAt" [.atLeast (.stamp since), .atMost (.stamp sv₁.clock)]] =
        sv₂.db.coll.select
          [.field "createdAt" [.atLeast (.stamp since), .atMost (.stamp sv₁.clock)]]) :
    (statistics v sv₁).1 = (statistics v sv₂).1 := by
  unfold statistics
  rw [now_bind_apply, now_bind_apply, ← hclock]
  cases hE : (checkRange "daysBack" v maxDaysBack >>= fun _ =>
      daysSpan v >>= sv₁.clock.earlier : Except Failure Stamp) with
  | error f => rfl
  | ok since =>
    dsimp only
    rw [Db.bind_apply, onDb_read_of_quiet hq₁, Db.bind_apply, onDb_read_of_quiet hq₂,
      dailyLevelCounts_congr (hsel since hE)]
    cases sv₂.db.coll.dailyLevelCounts since sv₁.clock <;> rfl

theorem criticalEvents_congr (hclock : sv₁.clock = sv₂.clock) (v : Value)
    (hsel : ∀ since, (hoursSpan v >>= sv₁.clock.earlier) = .ok since →
      sv₁.db.coll.select [.field "level" [.eq (.str Level.error.text)],
          .field "createdAt" [.atLeast (.stamp since)]] =
        sv₂.db.coll.select [.field "level" [.eq (.str Level.error.text)],
          .field "createdAt" [.atLeast (.stamp since)]]) :
    (criticalEvents v sv₁).1 = (criticalEvents v sv₂).1 := by
  unfold criticalEvents
  rw [now_bind_apply, now_bind_apply, ← hclock]
  cases hE : (hoursSpan v >>= sv₁.clock.earlier : Except Failure Stamp) with
  | error f => rfl
  | ok since =>
    dsimp only
    unfold Repo.findRecent
    rw [Db.bind_apply, onDb_read_of_quiet hq₁, Db.bind_apply, onDb_read_of_quiet hq₂,
      find_congr (hsel since hE)]
    cases sv₂.db.coll.find [.field "level" [.eq (.str Level.error.text)],
      .field "createdAt" [.atLeast (.stamp since)]] newestFirst 0 criticalLimit <;> rfl

theorem critical_congr (hclock : sv₁.clock = sv₂.clock) (v : Value)
    (hsel : ∀ since, (checkRange "windowHours" v maxWindowHours >>= fun _ =>
        hoursSpan v >>= sv₁.clock.earlier) = .ok since →
      sv₁.db.coll.select [.field "level" [.eq (.str Level.error.text)],
          .field "createdAt" [.atLeast (.stamp since)]] =
        sv₂.db.coll.select [.field "level" [.eq (.str Level.error.text)],
          .field "createdAt" [.atLeast (.stamp since)]]) :
    (critical v sv₁).1 = (critical v sv₂).1 := by
  unfold critical
  cases hcheck : checkRange "windowHours" v maxWindowHours with
  | error f => rfl
  | ok u =>
    dsimp only
    rw [Db.bind_apply, Db.bind_apply, criticalEvents_congr hq₁ hq₂ hclock v fun since hE =>
      hsel since (by rw [hcheck]; exact hE)]
    cases (criticalEvents v sv₂).1 <;> rfl

theorem health_congr (hclock : sv₁.clock = sv₂.clock) (actor : String)
    (hsel : ∀ since, (Span.ofHours 1 >>= sv₁.clock.earlier) = .ok since →
      sv₁.db.coll.select [.field "createdAt" [.atLeast (.stamp since)]] =
        sv₂.db.coll.select [.field "createdAt" [.atLeast (.stamp since)]])
    (hcrit : ∀ since, (hoursSpan (.int 1) >>= sv₁.clock.earlier) = .ok since →
      sv₁.db.coll.select [.field "level" [.eq (.str Level.error.text)],
          .field "createdAt" [.atLeast (.stamp since)]] =
        sv₂.db.coll.select [.field "level" [.eq (.str Level.error.text)],
          .field "createdAt" [.atLeast (.stamp since)]]) :
    (health actor sv₁).1 = (health actor sv₂).1 := by
  unfold health
  rw [now_bind_apply, now_bind_apply, ← hclock]
  cases hE : (Span.ofHours 1 >>= sv₁.clock.earlier : Except Failure Stamp) with
  | error f => rfl
  | ok since =>
    dsimp only
    unfold Repo.count Repo.findRecent
    rw [Db.bind_apply, onDb_read_of_quiet hq₁, Db.bind_apply, onDb_read_of_quiet hq₂,
      count_congr (hsel since hE)]
    cases sv₂.db.coll.count [.field "createdAt" [.atLeast (.stamp since)]] with
    | error f => rfl
    | ok events =>
      dsimp only
      rw [Db.bind_apply, onDb_read_of_quiet hq₁, Db.bind_apply, onDb_read_of_quiet hq₂,
        find_congr (hsel since hE)]
      cases sv₂.db.coll.find [.field "createdAt" [.atLeast (.stamp since)]] newestFirst 0 1 with
      | error f => rfl
      | ok latest =>
        dsimp only
        rw [Db.bind_apply, Db.bind_apply, criticalEvents_congr hq₁ hq₂ hclock (.int 1) hcrit]
        cases (criticalEvents (.int 1) sv₂).1 <;> rfl

/-- A listing agrees when its condition selects alike: both read the same answers, or both fail
with the generic failure. -/
theorem query_run'_congr (q : Listing) (x : Bool)
    (hsel : sv₁.db.coll.select (q.toFilters.cond x) = sv₂.db.coll.select (q.toFilters.cond x)) :
    (query q x).run' sv₁ = (query q x).run' sv₂ := by
  have hfind := find_congr hsel q.sortKeys ((q.page - 1) * q.pageSize) q.pageSize
  have hcount := count_congr hsel
  have hcounts := levelCounts_congr hsel
  have husers := distinctCount_congr hsel "userId"
  have hrange := createdRange_congr hsel
  by_cases hok : ∃ docs total counts users range summary,
      sv₁.db.coll.find (q.toFilters.cond x) q.sortKeys ((q.page - 1) * q.pageSize) q.pageSize =
        .ok docs ∧
      sv₁.db.coll.count (q.toFilters.cond x) = .ok total ∧
      sv₁.db.coll.levelCounts (q.toFilters.cond x) = .ok counts ∧
      sv₁.db.coll.distinctCount (q.toFilters.cond x) "userId" = .ok users ∧
      sv₁.db.coll.createdRange (q.toFilters.cond x) = .ok range ∧
      Summary.ofReads counts users range = .ok summary
  · obtain ⟨docs, total, counts, users, range, summary, h₁, h₂, h₃, h₄, h₅, h₆⟩ := hok
    rw [query_run' hq₁ h₁ h₂ h₃ h₄ h₅ h₆, query_run' hq₂ (hfind ▸ h₁) (hcount ▸ h₂)
      (hcounts ▸ h₃) (husers ▸ h₄) (hrange ▸ h₅) h₆]
  · rw [hfind, hcount, hcounts, husers, hrange] at hok
    rw [query_run'_of_reads_fail hq₁.onlyReads (by rwa [hfind, hcount, hcounts, husers, hrange]),
      query_run'_of_reads_fail hq₂.onlyReads hok]

end Quiet

end Service

end AuditTrail
