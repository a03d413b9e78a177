import Mathlib
import AuditTrail.Proofs.ListingPages

/-!
# The links between pages

Below `2^53` the pagination counts `⌈N / s⌉` pages and announces a next page exactly when one
holds events (`pagination_links`); past it the last unit is lost.
-/

namespace AuditTrail

/-! ### Counting pages -/

namespace Pagination

theorem ceil_div_eq (N S : Nat) (hS : 0 < S) : (((N + S - 1) / S : Nat) : Int) = ⌈(N : ℚ) / S⌉ := by
  symm
  rw [Int.ceil_eq_iff]
  have hlo := Nat.div_mul_le_self (N + S - 1) S
  have hhi := Nat.lt_div_mul_add (a := N + S - 1) hS
  have hS' : (0 : ℚ) < S := by exact_mod_cast hS
  generalize (N + S - 1) / S = z at hlo hhi ⊢
  constructor
  · -- one page fewer does not hold every event
    rw [lt_div_iff₀ hS']
    have hz : (z : Int) * S < N + S := by omega
    have hz' : ((z : Int) - 1) * S < N := by linarith
    exact_mod_cast hz'
  · -- the counted pages hold every event
    rw [div_le_iff₀ hS']
    have hz : N ≤ z * S := by omega
    exact_mod_cast hz

theorem lt_ceil_div_iff (page : Int) (N S : Nat) (hS : 0 < S) :
    page < ⌈(N : ℚ) / S⌉ ↔ page * S < N := by
  have hS' : (0 : ℚ) < S := by exact_mod_cast hS
  rw [Int.lt_ceil, lt_div_iff₀ hS']
  exact_mod_cast Iff.rfl

/-- Below `2^53` the pagination counts the exact ceiling of pages and flags the neighbours of
the page by it. -/
theorem build_spec (N : Nat) (page : Int) {S : Nat} (hN : N < 2 ^ 53) (hS : 0 < S)
    (hS' : S < 2 ^ 53) :
    build N page S =
      .ok { total := N, page, pageSize := S, totalPages := ⌈(N : ℚ) / S⌉,
            hasNext := decide (page < ⌈(N : ℚ) / S⌉), hasPrevious := decide (page > 1) } := by
  unfold build
  rw [pageCount_eq N hN (Nat.pos_iff_ne_zero.1 hS) hS', ceil_div_eq N S hS]
  rfl

theorem pageCount_two_pow_53_succ :
    ((build (2 ^ 53 + 1) 1 1).toOption.map (·.totalPages)) = some (2 ^ 53) := by
  decide +kernel

end Pagination

/-- `2^53 + 1` events in pages of one are counted as `2^53` pages, one fewer than they fill. -/
theorem build_loses_last_page :
    ∃ p, Pagination.build (2 ^ 53 + 1) 1 1 = .ok p ∧ p.totalPages = 2 ^ 53 ∧
      p.totalPages ≠ ⌈(((2 ^ 53 + 1 : Int)) : ℚ) / ((1 : Int) : ℚ)⌉ := by
  have hcount := Pagination.pageCount_two_pow_53_succ
  cases hb : Pagination.build (2 ^ 53 + 1) 1 1 with
  | error e =>
    rw [hb] at hcount
    cases hcount
  | ok p =>
    rw [hb] at hcount
    have hp : p.totalPages = 2 ^ 53 := Option.some.inj hcount
    refine ⟨p, rfl, hp, ?_⟩
    rw [hp]
    norm_num

/-! ### The next page of a listing -/

theorem pageSlice_succ_ne_nil_iff {α : Type} (xs : List α) {s : Nat} (hs : 0 < s) (n : Nat) :
    pageSlice xs s (n + 1) ≠ [] ↔ n * s < xs.length := by
  unfold pageSlice
  rw [Nat.add_sub_cancel, ne_eq, List.take_eq_nil_iff, not_or, List.drop_eq_nil_iff]
  omega

namespace Service

theorem query_ok (sv : Service) (q : Listing) (excludeSelfAudit : Bool) (hq : sv.db.Quiet)
    (hread : ∀ d ∈ sv.db.coll.docs, ReadableEvent d) (hsmall : sv.db.coll.docs.length < 2 ^ 53)
    (hs : 0 < q.pageSize) (hs' : q.pageSize < 2 ^ 53)
    {ys : List Record} {views : List EventView}
    (hord : Collection.order q.sortKeys
      (sv.db.coll.docs.filter (q.toFilters.cond excludeSelfAudit).selects) = .ok ys)
    (hviews : ys.mapM EventView.ofDocument = .ok views) :
    ∃ summary, (query q excludeSelfAudit).run' sv =
      .ok { events := pageSlice views q.pageSize q.page,
            pagination :=
              { total := views.length, page := q.page, pageSize := q.pageSize,
                totalPages := ⌈(views.length : ℚ) / q.pageSize⌉,
                hasNext := decide ((q.page : Int) < ⌈(views.length : ℚ) / q.pageSize⌉),
                hasPrevious := decide ((q.page : Int) > 1) },
            summary } := by
  obtain ⟨summary, hquery⟩ := query_eq hq hread hs hord
  have hlen : ys.length = views.length := (length_of_mapM_eq_ok hviews).symm
  have hN : views.length < 2 ^ 53 := by
    rw [← hlen, (perm_of_order_eq (fun d hd => hread d (List.mem_filter.1 hd).1) hord).length_eq]
    exact Nat.lt_of_le_of_lt (List.length_filter_le _ _) hsmall
  refine ⟨summary, ?_⟩
  rw [hquery, pageSlice, mapM_take (mapM_drop hviews _) _, hlen,
    Pagination.build_spec _ _ hN hs hs']
  rfl

end Service

/-- Below `2^53` a listing counts `⌈N / s⌉` pages and announces a next page exactly when one
holds events. -/
theorem pagination_links :
    (∀ total page s : Int, 0 ≤ total → total < 2 ^ 53 → 1 ≤ s → s < 2 ^ 53 →
      ∃ p, Pagination.build total page s = .ok p ∧
        p.totalPages = ⌈(total : ℚ) / s⌉ ∧
        (p.hasNext = true ↔ page < p.totalPages) ∧ (page < p.totalPages ↔ page * s < total) ∧
        (p.hasPrevious = true ↔ 1 < page)) ∧
    (∀ (sv : Service) (q : Listing) (excludeSelfAudit : Bool), sv.Listable → 0 < q.pageSize →
      q.pageSize < 2 ^ 53 →
      ∃ p p', (Service.query q excludeSelfAudit).run' sv = .ok p ∧
        (Service.query { q with page := q.page + 1 } excludeSelfAudit).run' sv = .ok p' ∧
        (p.pagination.hasNext = true ↔ p'.events ≠ [])) := by
  refine ⟨fun total page s h0 hN hs hs' => ?_, fun sv q x h hs hs' => ?_⟩
  · lift total to Nat using h0
    lift s to Nat using (by omega)
    have hs₀ : 0 < s := by omega
    refine ⟨_, Pagination.build_spec total page (by omega) hs₀ (by omega), rfl, ?_, ?_, ?_⟩
    · simp
    · exact_mod_cast Pagination.lt_ceil_div_iff page total s hs₀
    · simp
  · -- the matching documents have one strict order, read as the events `views`
    have hid : sv.db.coll.docs.Pairwise IdsApart := h.idsDistinct.imp_of_mem fun ha hb hab =>
      (h.listed _ ha).idsApart (h.listed _ hb) hab
    have hM : ∀ d ∈ sv.db.coll.docs.filter (q.toFilters.cond x).selects, ListedEvent d :=
      fun d hd => h.listed d (List.mem_filter.1 hd).1
    obtain ⟨ys, hord, hperm, -⟩ := order_strict q hM (hid.filter _)
    obtain ⟨views, hviews⟩ := mapM_eq_ok_of_forall _ ys fun d hd =>
      (hM d (hperm.mem_iff.1 hd)).view
    have hread : ∀ d ∈ sv.db.coll.docs, ReadableEvent d := fun d hd => (h.listed d hd).readable
    obtain ⟨summary, hp⟩ := Service.query_ok sv q x h.quiet hread h.small hs hs' hord hviews
    obtain ⟨summary', hp'⟩ := Service.query_ok sv { q with page := q.page + 1 } x h.quiet hread
      h.small hs hs' hord hviews
    refine ⟨_, _, hp, hp', ?_⟩
    dsimp only
    rw [pageSlice_succ_ne_nil_iff views hs, decide_eq_true_iff,
      Pagination.lt_ceil_div_iff _ _ _ hs]
    exact_mod_cast Iff.rfl

def threeEvents : Service where
  db := { coll := { entries := [
    (.int 1, [("_id", .int 1), ("level", .str "info"), ("action", .str "login"),
      ("message", .str "a"), ("createdAt", .stamp ⟨1717200000000000, none⟩)]),
    (.int 2, [("_id", .int 2), ("level", .str "warn"), ("action", .str "login"),
      ("message", .str "b"), ("createdAt", .stamp ⟨1717200060000000, none⟩)]),
    (.int 3, [("_id", .int 3), ("level", .str "info"), ("action", .str "logout"),
      ("message", .str "c"), ("createdAt", .stamp ⟨1717200120000000, none⟩)])], nextId := 4 } }
  clock := ⟨1717200120000000, none⟩

theorem threeEvents_listable : threeEvents.Listable := by
  have hid : ∀ d : Record, d.keyValue "_id" = (d.get? "_id").getD .null := fun d =>
    Record.keyValue_sortPath d (by simp [sortPaths])
  refine ⟨⟨(fun _ _ hp => by cases hp), rfl⟩, fun d hd => ?_, ?_, by decide⟩
  · simp only [threeEvents, Collection.docs, List.map, List.mem_cons, List.not_mem_nil,
      or_false] at hd
    rcases hd with rfl | rfl | rfl
    all_goals exact ⟨⟨_, rfl⟩, ⟨_, rfl, rfl⟩, by rw [hid]; trivial, by rw [hid]; trivial⟩
  · simp only [threeEvents, Collection.docs, List.map, List.pairwise_cons, List.mem_cons,
      List.not_mem_nil, or_false, forall_eq_or_imp, forall_eq, false_implies, implies_true,
      List.Pairwise.nil, and_true, hid]
    decide +kernel

/-- Five events in pages of two, and three stored events in pages of two: the first page
announces a second, which holds the third event. -/
theorem pagination_links_three_events :
    (∃ p, Pagination.build 5 2 2 = .ok p ∧ p.totalPages = ⌈((5 : Int) : ℚ) / ((2 : Int) : ℚ)⌉ ∧
      (p.hasNext = true ↔ (2 : Int) < p.totalPages) ∧
      ((2 : Int) < p.totalPages ↔ (2 : Int) * 2 < 5) ∧ (p.hasPrevious = true ↔ (1 : Int) < 2)) ∧
    threeEvents.Listable ∧
    ∃ p p', (Service.query { pageSize := 2 } false).run' threeEvents = .ok p ∧
      (Service.query { pageSize := 2, page := 2 } false).run' threeEvents = .ok p' ∧
      (p.pagination.hasNext = true ↔ p'.events ≠ []) :=
  ⟨pagination_links.1 5 2 2 (by decide) (by decide) (by decide) (by decide), threeEvents_listable,
    pagination_links.2 threeEvents { pageSize := 2 } false threeEvents_listable (by decide)
      (by decide)⟩

end AuditTrail
