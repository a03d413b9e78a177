import AuditTrail.Proofs.StoredReads
import AuditTrail.Proofs.StoreFaults

/-!
# How the reports end on a store of stored events

Every report ends with a result or an expected failure (`Failure.expected`) on a store of stored
events, with the clock a year past the first representable instant.
-/

namespace AuditTrail

open Collection

/-- The failures a report may end with on a store of stored events: a refused parameter or an
empty export, and the generic failures of a store that could not answer. -/
def Failure.expected : Failure → Bool
  | .invalidFilter _ _ | .queryFailed _ | .exportFailed _ => true
  | _ => false

def EndsWell {α : Type} (r : Except Failure α) : Prop := ∀ f, r = .error f → f.expected = true

theorem endsWell_ok {α : Type} (a : α) : EndsWell (.ok a : Except Failure α) := fun _ h => by
  cases h

theorem endsWell_error {α : Type} {f : Failure} (hf : f.expected = true) :
    EndsWell (.error f : Except Failure α) := fun _ h => by
  cases h
  exact hf

def Stamp.YearPastMin (t : Stamp) : Prop :=
  Stamp.minWall + 365 * microsPerDay ≤ t.wall ∧ t.wall ≤ Stamp.maxWall

/-! ### Windows back from the clock -/

section Windows

theorem checkRange_int (field : String) (n upper : Int) :
    checkRange field (.int n) upper =
      if n < 1 ∨ upper < n then
        .error (.invalidFilter field (field ++ " must be between 1 and " ++ toString upper))
      else .ok () := by
  simp [checkRange, Numeric.comparable, Numeric.ofValue?, Numeric.toExact, Exact.lt, Exact.cmp,
    bind, Except.bind, compare_lt_iff_lt]

theorem daysSpan_int {n : Int} (h₀ : 0 ≤ n) (h₁ : n ≤ Span.maxDays) :
    daysSpan (.int n) = .ok (n * microsPerDay) := by
  have hdiv : n * microsPerDay / microsPerDay = n := Int.mul_ediv_cancel _ (by decide)
  simp only [Span.maxDays] at h₁
  simp [daysSpan, Numeric.ofValue?, Span.ofAmounts, Span.accumulate, Span.settle, bind,
    Except.bind, Span.check, hdiv, Span.maxDays]
  rw [if_neg (by omega), if_neg (by omega)]

theorem hoursSpan_int {n : Int} (h₀ : 0 ≤ n) (h₁ : n ≤ 24 * Span.maxDays) :
    hoursSpan (.int n) = .ok (n * microsPerHour) := by
  have hdiv : n * microsPerHour / microsPerDay = n / 24 := by
    rw [show microsPerDay = microsPerHour * 24 from rfl, ← Int.ediv_ediv_of_nonneg (by decide),
      Int.mul_ediv_cancel _ (by decide)]
  simp only [Span.maxDays] at h₁
  simp [hoursSpan, Numeric.ofValue?, Span.ofAmounts, Span.accumulate, Span.settle, bind,
    Except.bind, Span.check, hdiv, Span.maxDays]
  rw [if_neg (by omega), if_neg (by omega)]

theorem Stamp.earlier_eq {t : Stamp} {us : Int} (h₀ : Stamp.minWall ≤ t.wall - us)
    (h₁ : t.wall - us ≤ Stamp.maxWall) : t.earlier us = .ok { t with wall := t.wall - us } := by
  have hin : Stamp.inRange { t with wall := t.wall + -us } = true := by
    simp [Stamp.inRange]
    omega
  simp [Stamp.earlier, Stamp.later, Stamp.shift, hin, Int.sub_eq_add_neg]

variable {t : Stamp} (ht : t.YearPastMin)
include ht

theorem Stamp.YearPastMin.days_earlier {n : Int} (h₀ : 0 ≤ n) (h₁ : n ≤ 365) :
    (daysSpan (.int n) >>= t.earlier) = .ok { t with wall := t.wall - n * microsPerDay } := by
  have hday : (0 : Int) ≤ microsPerDay := by decide
  rw [daysSpan_int h₀ (by simp only [Span.maxDays]; omega)]
  exact Stamp.earlier_eq (by have := ht.1; nlinarith) (by have := ht.2; nlinarith)

theorem Stamp.YearPastMin.hours_earlier {n : Int} (h₀ : 0 ≤ n) (h₁ : n ≤ 24 * 365) :
    (hoursSpan (.int n) >>= t.earlier) = .ok { t with wall := t.wall - n * microsPerHour } := by
  have hhour : microsPerDay = 24 * microsPerHour := rfl
  have hpos : (0 : Int) ≤ microsPerHour := by decide
  rw [hoursSpan_int h₀ (by simp only [Span.maxDays]; omega)]
  exact Stamp.earlier_eq (by have := ht.1; nlinarith) (by have := ht.2; nlinarith)

theorem Stamp.YearPastMin.hour_earlier :
    (Span.ofHours 1 >>= t.earlier) = .ok { t with wall := t.wall - microsPerHour } := by
  have hhour : Span.ofHours 1 = .ok microsPerHour := rfl
  have hday : microsPerHour ≤ 365 * microsPerDay := by decide
  have hpos : (0 : Int) ≤ microsPerHour := by decide
  rw [hhour]
  exact Stamp.earlier_eq (by have := ht.1; omega) (by have := ht.2; omega)

end Windows

/-! ### Parsed listings -/

namespace Listing

theorem pageSizeField_bounds {v : Value} {n : Nat} (h : pageSizeField v = .ok n) :
    0 < n ∧ n ≤ maxPageSize := by
  unfold pageSizeField at h
  obtain ⟨m, hm, hn⟩ := bind_eq_ok.1 h
  unfold Form.intAtLeast at hm
  obtain ⟨k, -, hk⟩ := bind_eq_ok.1 hm
  by_cases hlt : k < 1
  · rw [if_pos hlt] at hk
    cases hk
  · rw [if_neg hlt] at hk
    obtain rfl : k = m := Except.ok.inj hk
    by_cases hbig : k > (maxPageSize : Int)
    · rw [if_pos hbig] at hn
      cases hn
    · rw [if_neg hbig] at hn
      cases hn
      constructor <;> omega

theorem parse_pageSize {v : Value} {q : Listing} (h : parse v = .ok q) :
    0 < q.pageSize ∧ q.pageSize ≤ maxPageSize := by
  unfold parse at h
  obtain ⟨u, -, hread⟩ := bind_eq_ok.1 h
  rw [mapError_eq_ok] at hread
  unfold read at hread
  split at hread
  · obtain ⟨r, -, hrest⟩ := bind_eq_ok.1 hread
    obtain ⟨f, -, hrest⟩ := bind_eq_ok.1 hrest
    obtain ⟨sortBy, -, hrest⟩ := bind_eq_ok.1 hrest
    obtain ⟨sortOrder, -, hrest⟩ := bind_eq_ok.1 hrest
    obtain ⟨page, -, hrest⟩ := bind_eq_ok.1 hrest
    obtain ⟨size, hsize, hrest⟩ := bind_eq_ok.1 hrest
    obtain ⟨u, -, hrest⟩ := bind_eq_ok.1 hrest
    cases hrest
    rcases Form.withDefault_eq_ok hsize with rfl | ⟨w, hw⟩
    · exact ⟨Nat.zero_lt_succ _, show 50 ≤ 1000 by decide⟩
    · exact pageSizeField_bounds hw
  · cases hread

end Listing

/-! ### Reads -/

theorem Db.Holds.read_ok {db : Db} (h : db.Holds OfEvents) {α : Type} {m : StoreMethod}
    {op : Collection → Except Failure α} {a : α} (hr : (Db.read m op db).1 = .ok a) :
    ∃ c, c.OfEvents ∧ op c = .ok a := by
  obtain ⟨c, hc, hread⟩ := h.read_answer m op
  refine ⟨c, hc, ?_⟩
  rcases hread with hread | ⟨_, _, hread⟩
  · rw [← hread, hr]
  · rw [hr] at hread
    cases hread

namespace Service

variable {sv : Service}

theorem except_ok_bind {ε α β : Type} (a : α) (f : α → Except ε β) :
    (Except.ok a >>= f) = f a := rfl

theorem now_bind_apply {α : Type} (f : Stamp → StateM Service α) (sv : Service) :
    (Service.now >>= f) sv = f sv.clock sv := rfl

theorem bind_pass {α β : Type} {x : StateM Service (Except Failure α)}
    {k : Except Failure α → StateM Service (Except Failure β)} (hx : EndsWell (x sv).1)
    (herr : ∀ f (s : Service), k (.error f) s = (.error f, s))
    (hok : ∀ a, (x sv).1 = .ok a → EndsWell (k (.ok a) (x sv).2).1) :
    EndsWell ((x >>= k) sv).1 := by
  show EndsWell (k (x sv).1 (x sv).2).1
  cases hX : (x sv).1 with
  | error f =>
    rw [herr]
    exact endsWell_error (hx f hX)
  | ok a => exact hok a hX

theorem write_bind {α β : Type} {m : StoreMethod} {op : Collection → Collection × Except Failure α}
    {k : Except Failure α → StateM Service (Except Failure β)}
    (hk : ∀ r (s : Service), EndsWell (k r s).1) : EndsWell ((onDb (Db.write m op) >>= k) sv).1 :=
  hk _ _

/-- A read followed by a step of the report: when every failure of the read ends the report
with `P`, and every answer of the operation on a collection of stored events does, so does the
report. -/
theorem read_bind_of_holds {α β : Type} {P : Except Failure β → Prop}
    (h : sv.db.Holds OfEvents) {m : StoreMethod} {op : Collection → Except Failure α}
    {k : Except Failure α → StateM Service (Except Failure β)}
    (herr : ∀ f (s : Service), P (k (.error f) s).1)
    (hok : ∀ c a (s : Service), c.OfEvents → op c = .ok a → s.db.Holds OfEvents →
      s.clock = sv.clock → P (k (.ok a) s).1) :
    P ((onDb (Db.read m op) >>= k) sv).1 := by
  show P (k (Db.read m op sv.db).1 { sv with db := (Db.read m op sv.db).2 }).1
  cases hR : (Db.read m op sv.db).1 with
  | error f => exact herr f _
  | ok a =>
    obtain ⟨c, hc, hop⟩ := h.read_ok hR
    exact hok c a _ hc hop (h.read m op) rfl

theorem handler_bind {α β : Type} {x : Handler α} {f : α → Handler β} (hx : EndsWell (x.run sv).1)
    (hf : ∀ a, (x.run sv).1 = .ok a → EndsWell ((f a).run (x.run sv).2).1) :
    EndsWell ((x >>= f).run sv).1 := by
  rw [ExceptT.run_bind]
  exact bind_pass hx (fun _ _ => rfl) hf

theorem check_bind {α β : Type} {x : Except Failure α} {f : α → Handler β} (hx : EndsWell x)
    (hf : ∀ a, x = .ok a → EndsWell ((f a).run sv).1) :
    EndsWell ((Handler.check x >>= f).run sv).1 :=
  handler_bind hx hf

end Service

theorem intParam_endsWell (field : String) (value : Option String) (default : Int) :
    EndsWell (intParam field value default) := by
  unfold intParam
  split
  · exact endsWell_ok _
  · exact endsWell_ok _
  · split
    · exact endsWell_ok _
    · exact endsWell_error rfl

/-- The parameters of a request that its endpoint's parsers accept: a listing's or an export's
parameters read, and a sweep's threshold, once read, reaches back from `now` to a representable
instant. -/
def QueryPairs.Admissible (q : QueryPairs) (now : Stamp) : Endpoint → Prop
  | .listLogs => ∃ l, Listing.parse (.record q.listingRecord) = .ok l
  | .exportLogs => ∃ fs r, q.exportRecord = .ok fs ∧ ExportRequest.parse (.record fs) = .ok r
  | .cleanup => ∀ days, intParam "ageThresholdDays" (q.last? "ageThresholdDays") 0 = .ok days →
      Stamp.minWall ≤ now.wall - days * microsPerDay
  | _ => True

/-! ### The reports -/

theorem insertDays_ok {rows : List ((Date × Option Value) × Nat)}
    (hkeyed : ∀ r ∈ rows, DayKeyed r.1) :
    ∃ days, rows.foldlM (fun acc r => do
      let level ← levelKey r.1.2
      pure (insertDay r.1.1.text level r.2 acc)) [] = .ok days :=
  foldlM_answers _ rows [] fun acc r hr => by
    obtain ⟨l, hl⟩ := hkeyed r hr
    exact ⟨_, by rw [hl]; rfl⟩

namespace Service

variable {sv : Service} (h : sv.db.Holds OfEvents) (ht : sv.clock.YearPastMin)

include h ht in
theorem statistics_endsWell (n : Int) : EndsWell (Service.statistics (.int n) sv).1 := by
  unfold Service.statistics
  rw [now_bind_apply]
  rw [checkRange_int]
  split_ifs with hn
  · exact endsWell_error rfl
  · rw [maxDaysBack] at hn
    rw [except_ok_bind, ht.days_earlier (by omega) (by omega)]
    dsimp only
    refine read_bind_of_holds h (fun _ _ => endsWell_error rfl) fun c rows s hc hrows _ _ => ?_
    obtain ⟨rows', hrows', hkeyed⟩ := hc.dailyLevelCounts_ok _ sv.clock
    rw [hrows, Except.ok.injEq] at hrows'
    subst hrows'
    obtain ⟨days, hdays⟩ := insertDays_ok hkeyed
    show EndsWell (List.foldlM _ [] rows)
    rw [hdays]
    exact endsWell_ok _

include h ht in
theorem criticalEvents_endsWell {n : Int} (h₀ : 0 ≤ n) (h₁ : n ≤ 24 * 365) :
    EndsWell (Service.criticalEvents (.int n) sv).1 := by
  unfold Service.criticalEvents
  rw [now_bind_apply, ht.hours_earlier h₀ h₁]
  dsimp only
  refine read_bind_of_holds h (fun _ _ => endsWell_error rfl) fun c docs s hc hdocs _ _ => ?_
  obtain ⟨views, hviews⟩ := mapM_eq_ok_of_forall EventView.ofDocument docs fun d hd =>
    (hc.listed d (hc.mem_of_findRecent hdocs d hd)).view
  show EndsWell (docs.mapM EventView.ofDocument)
  rw [hviews]
  exact endsWell_ok _

include h ht in
theorem critical_endsWell (n : Int) : EndsWell (Service.critical (.int n) sv).1 := by
  unfold Service.critical
  rw [checkRange_int]
  split_ifs with hn
  · exact endsWell_error rfl
  · rw [maxWindowHours] at hn
    exact bind_pass (criticalEvents_endsWell h ht (by omega) (by omega)) (fun _ _ => rfl)
      fun _ _ => endsWell_ok _

include h ht in
theorem health_endsWell (actor : String) : EndsWell (Service.health actor sv).1 := by
  unfold Service.health
  rw [now_bind_apply, ht.hour_earlier]
  dsimp only
  refine read_bind_of_holds h (fun _ _ => endsWell_error rfl) fun c events s hc _ hs hclock => ?_
  refine read_bind_of_holds hs (fun _ _ => endsWell_error rfl)
    fun c' latest s' hc' hlatest hs' hclock' => ?_
  rw [← hclock] at ht
  rw [← hclock'] at ht
  refine bind_pass (criticalEvents_endsWell hs' ht (by decide) (by decide)) (fun _ _ => rfl)
    fun critical _ => ?_
  have hlast : latest.head?.bind (·.get? "createdAt") = none ∨
      ∃ t, latest.head?.bind (·.get? "createdAt") = some (.stamp t) := by
    cases hl : latest with
    | nil => exact .inl rfl
    | cons d rest =>
      have hd := hc'.mem_of_findRecent hlatest d (hl ▸ List.mem_cons_self)
      obtain ⟨t, ht', -⟩ := (hc'.listed d hd).createdAt
      exact .inr ⟨t, ht'⟩
  rcases hlast with hnone | ⟨t, hstamp⟩
  · simp only [hnone]
    exact endsWell_ok _
  · simp only [hstamp]
    exact endsWell_ok _

include h in
theorem exportEvents_endsWell (r : ExportRequest) : EndsWell (Service.exportEvents r sv).1 := by
  rcases hfmt : r.format with _ | fmt
  · rw [exportEvents_of_format_none hfmt]
    exact endsWell_error rfl
  · change EndsWell ((Service.exportEvents r).run' sv)
    rw [exportEvents_run' hfmt]
    rcases hR : (Repo.findRecent (r.toFilters.cond false) r.maxRecords sv.db).1 with
      f | _ | ⟨d, ds⟩
    · exact endsWell_error rfl
    · exact endsWell_error rfl
    · -- the events found are stored events, which every writer takes
      obtain ⟨c, hc, hdocs⟩ := h.read_ok hR
      obtain ⟨rows, hrows, hwrite⟩ :=
        hc.readsBack.2 (d :: ds) (List.cons_ne_nil _ _) (hc.mem_of_findRecent hdocs)
      obtain ⟨content, hcontent⟩ := hwrite fmt r.toValue.withoutNulls sv.clock
      dsimp only
      rw [ExportRequest.fileOf, hrows, except_ok_bind, hcontent]
      exact endsWell_ok _

include ht in
theorem purge_endsWell (n : Int) (hcut : Stamp.minWall ≤ sv.clock.wall - n * microsPerDay) :
    EndsWell (Service.purge (.int n) sv).1 := by
  unfold Service.purge
  rw [show Numeric.comparable "<" (.int n) = .ok (.int n) from rfl]
  simp only []
  by_cases hn : n < 1
  · rw [if_pos (by simp [Numeric.toExact, Exact.lt, Exact.cmp, compare_lt_iff_lt, hn])]
    exact endsWell_error rfl
  · rw [if_neg (by simp [Numeric.toExact, Exact.lt, Exact.cmp, compare_lt_iff_lt, hn])]
    -- the cutoff lies within the representable years, so fewer days than the limit of a span
    have hspan : Stamp.maxWall - Stamp.minWall < 4000000 * microsPerDay := by decide
    have hday : (0 : Int) < microsPerDay := by decide
    have hmax : n ≤ Span.maxDays := by
      have := ht.2
      simp only [Span.maxDays]
      nlinarith
    rw [now_bind_apply, daysSpan_int (by omega) hmax, except_ok_bind,
      Stamp.earlier_eq hcut (by have := ht.2; nlinarith)]
    exact write_bind fun r s => by
      cases r with
      | error f => exact endsWell_error rfl
      | ok deleted => exact endsWell_ok _

include h in
theorem query_endsWell (q : Listing) (x : Bool) (hs : 0 < q.pageSize) (hs' : q.pageSize < 2 ^ 53) :
    EndsWell (Service.query q x sv).1 := by
  change EndsWell ((Service.query q x).run' sv)
  unfold Service.query
  rw [onDb_bind_run']
  generalize hG : Db.gather _ sv.db = G
  have hG' : G.2.Holds OfEvents := by
    rw [← hG]
    refine h.gather fun w hw => ?_
    simp only [List.mem_cons, List.not_mem_nil, or_false] at hw
    rcases hw with rfl | rfl | rfl <;> trivial
  obtain ⟨failed, db'⟩ := G
  rw [get_bind_run']
  dsimp only at hG' ⊢
  cases failed
  · rw [if_neg Bool.false_ne_true]
    generalize hR : (db'.coll.find _ _ _ _ >>= _ : Except Failure _) = R
    cases R with
    | error f => exact endsWell_error rfl
    | ok v =>
      obtain ⟨docs, total, summary⟩ := v
      simp only [bind_eq_ok] at hR
      obtain ⟨docs', hfind, total', hcount, summary', -, hpure⟩ := hR
      cases hpure
      have hc := hG'.coll
      obtain ⟨views, hviews⟩ := mapM_eq_ok_of_forall EventView.ofDocument docs fun d hd =>
        (hc.listed d (mem_of_find (fun d hd => (hc.listed d hd).readable.fits q) hfind d hd)).view
      obtain ⟨M, hsel, rfl⟩ := select_of_count hcount
      have hN : M.length < 2 ^ 53 :=
        Nat.lt_of_le_of_lt (sublist_of_filterM_eq_ok hsel).length_le hc.docs_length_lt
      change EndsWell (do
        let events ← docs.mapM EventView.ofDocument
        let pagination ← Pagination.build M.length q.page q.pageSize
        pure ({ events, pagination, summary } : LogsPage))
      rw [hviews, except_ok_bind, Pagination.build_eq _ _ hN (Nat.pos_iff_ne_zero.1 hs) hs']
      exact endsWell_ok _
  · exact endsWell_error rfl

/-! ### Requests -/

include h ht in
/-- An administrator's request with admissible parameters: the answer, or a refused parameter,
an empty export or the generic failure of the store. -/
theorem answer_endsWell (a : Actor) (q : QueryPairs) (e : Endpoint)
    (hq : q.Admissible sv.clock e) : EndsWell ((Service.answer a q e).run sv).1 := by
  unfold Service.answer
  cases e with
  | listLogs =>
    obtain ⟨l, hl⟩ := hq
    obtain ⟨hpos, hmax⟩ := Listing.parse_pageSize hl
    refine check_bind (by rw [hl]; exact endsWell_ok _) fun l' hl' => ?_
    obtain rfl : l = l' := Except.ok.inj (hl.symm.trans hl')
    have hsmall : l.pageSize < 2 ^ 53 := Nat.lt_of_le_of_lt hmax (by decide)
    exact handler_bind (query_endsWell h l true hpos hsmall) fun _ _ => endsWell_ok _
  | statistics =>
    exact check_bind (intParam_endsWell _ _ _) fun days _ =>
      handler_bind (statistics_endsWell h ht days) fun _ _ => endsWell_ok _
  | critical =>
    exact check_bind (intParam_endsWell _ _ _) fun hours _ =>
      handler_bind (critical_endsWell h ht hours) fun _ _ => endsWell_ok _
  | health => exact handler_bind (health_endsWell h ht _) fun _ _ => endsWell_ok _
  | exportLogs =>
    obtain ⟨fs, r, hfs, hr⟩ := hq
    refine check_bind (by rw [hfs]; exact endsWell_ok _) fun fs' hfs' => ?_
    obtain rfl : fs = fs' := Except.ok.inj (hfs.symm.trans hfs')
    exact check_bind (by rw [hr]; exact endsWell_ok _) fun r' _ =>
      handler_bind (exportEvents_endsWell h r') fun _ _ => endsWell_ok _
  | cleanup =>
    dsimp only
    split
    · -- a sweep without its threshold is refused before it runs
      exact handler_bind (endsWell_error rfl) fun _ hok => by cases hok
    · exact check_bind (intParam_endsWell _ _ _) fun days hdays =>
        handler_bind (purge_endsWell ht days (hq days hdays)) fun _ _ => endsWell_ok _
  | home => exact endsWell_ok _
  | page p => exact endsWell_ok _
  | description => exact endsWell_ok _

end Service

/-! ### Sessions -/

/-- Every report, and every administrator's request with admissible parameters, ends with a
result or a failure the service expects. The windows and thresholds are whole numbers, and a
sweep's cutoff is representable. -/
structure Service.ReportsEndWell (sv : Service) : Prop where
  query : ∀ v l, Listing.parse v = .ok l → ∀ x, EndsWell (Service.query l x sv).1
  statistics : ∀ n : Int, EndsWell (Service.statistics (.int n) sv).1
  critical : ∀ n : Int, EndsWell (Service.critical (.int n) sv).1
  health : ∀ actor, EndsWell (Service.health actor sv).1
  exportEvents : ∀ r, EndsWell (Service.exportEvents r sv).1
  purge : ∀ n : Int, Stamp.minWall ≤ sv.clock.wall - n * microsPerDay →
    EndsWell (Service.purge (.int n) sv).1
  answer : ∀ a q e, QueryPairs.Admissible q sv.clock e →
    EndsWell ((Service.answer a q e).run sv).1

theorem Service.reportsEndWell {sv : Service} (h : sv.db.Holds OfEvents)
    (ht : sv.clock.YearPastMin) : sv.ReportsEndWell where
  query _ l hl x := by
    obtain ⟨hpos, hmax⟩ := Listing.parse_pageSize hl
    exact query_endsWell h l x hpos (Nat.lt_of_le_of_lt hmax (by decide))
  statistics := statistics_endsWell h ht
  critical := critical_endsWell h ht
  health := health_endsWell h ht
  exportEvents := exportEvents_endsWell h
  purge := purge_endsWell ht
  answer := answer_endsWell h ht

/-- On the store of a session whose documents enter only through the ingestion path, with the
clock a year past the first representable instant, the readers take every document and every
report and every administrator's request with admissible parameters ends well. -/
theorem session_reports_end_well (t : Stamp) (steps : List SessionStep)
    (ht : (Session.run steps { clock := t }).clock.YearPastMin) :
    (Session.run steps { clock := t }).db.coll.ReadsBack ∧
      (Session.run steps { clock := t }).ReportsEndWell := by
  have h := Session.run_holds steps (Session.start_holds t)
  exact ⟨h.coll.readsBack, Service.reportsEndWell h ht⟩

def signInSession : List SessionStep :=
  [.record (.str "info") (.str "login") (.str "signed in") .null .null .null .null .null,
    .setClock ⟨1718452800000000, none⟩]

theorem signIn_session_reports_end_well :
    (Session.run signInSession { clock := ⟨1718452800000000, none⟩ }).clock.YearPastMin ∧
      (Session.run signInSession { clock := ⟨1718452800000000, none⟩ }).db.coll.ReadsBack ∧
      (Session.run signInSession { clock := ⟨1718452800000000, none⟩ }).ReportsEndWell :=
  have ht : (Session.run signInSession { clock := ⟨1718452800000000, none⟩ }).clock.YearPastMin :=
    ⟨by decide, by decide⟩
  ⟨ht, session_reports_end_well _ _ ht⟩

/-- A sweep threshold that reads as an integer but reaches back past the first representable
instant ends the request with an overflow, which is no failure the service expects. -/
theorem cleanup_past_first_instant_overflows :
    ((Service.answer ⟨"a1", none, "admin"⟩ [("ageThresholdDays", "1000000")] .cleanup).run
        { clock := ⟨1718452800000000, none⟩ }).1 = .error (.overflow "date value out of range") ∧
      (Failure.overflow "date value out of range").expected = false :=
  ⟨rfl, rfl⟩

end AuditTrail
