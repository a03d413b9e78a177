import AuditTrail.Proofs.SessionStore
import AuditTrail.Proofs.ExportRows
import AuditTrail.Proofs.ListingSummary
import AuditTrail.Proofs.ExportedEvents

/-!
# What the readers make of stored events

Every reader takes a stored event, so a quiet store of stored events is listable
(`Service.Listable`), and the reads behind the reports answer on it.
-/

namespace AuditTrail

open Collection Sorting

namespace StoredEvent

variable {p : Value × Record}

theorem createdAt (h : StoredEvent p) :
    ∃ t : Stamp, p.2.get? "createdAt" = some (.stamp t) ∧ t.offset = none := by
  obtain ⟨e, t, n, -, -, -⟩ := h
  exact ⟨t.toStored, by simp [Record.get?_storedFields, Event.toDocument, Record.get?_append,
    Value.stored], rfl⟩

theorem keyValue_id (h : StoredEvent p) : ∃ n, p.1 = .objectId n ∧ p.2.keyValue "_id" = .objectId n := by
  obtain ⟨e, t, n, -, -, -⟩ := h
  refine ⟨n, rfl, ?_⟩
  rw [Record.keyValue_sortPath _ (by simp [sortPaths])]
  simp [Record.get?_storedFields, Value.stored]

/-- A stored event is one a listing can show. -/
theorem listed (h : StoredEvent p) : ListedEvent p.2 where
  view := by
    obtain ⟨e, t, n, -, -, -⟩ := h
    exact ⟨_, EventView.ofDocument_storedEvent e t n⟩
  createdAt := h.createdAt
  idSortable := by
    obtain ⟨n, -, hn⟩ := h.keyValue_id
    rw [hn]
    trivial
  idNaive := by
    obtain ⟨n, -, hn⟩ := h.keyValue_id
    rw [hn]
    trivial

theorem row (h : StoredEvent p) :
    ∃ r, Row.ofDocument (.record p.2) = .ok r ∧ ∀ col, (r.cell col).FitsCell := by
  obtain ⟨e, t, n, he, hacc, -⟩ := h
  exact ⟨e.row t n, Row.ofDocument_storedEvent e t n he, Event.row_fitsCell e t n hacc⟩

end StoredEvent

/-- The readers take every document of the collection: each reads as an event, and any
nonempty choice of them flattens to rows that every export format writes. -/
def Collection.ReadsBack (c : Collection) : Prop :=
  (∀ d ∈ c.docs, ∃ v, EventView.ofDocument d = .ok v) ∧
    ∀ ds : List Record, ds ≠ [] → (∀ d ∈ ds, d ∈ c.docs) →
      ∃ rows, ds.mapM (fun d => Row.ofDocument (.record d)) = .ok rows ∧
        ∀ fmt filters now, ∃ x, ExportContent.write fmt rows filters now = .ok x

namespace Collection.OfEvents

variable {c : Collection} (h : c.OfEvents)
include h

theorem storedEvent {d : Record} (hd : d ∈ c.docs) : ∃ k, StoredEvent (k, d) := by
  obtain ⟨p, hp, rfl⟩ := List.mem_map.1 hd
  exact ⟨p.1, h.events p hp⟩

theorem listed : ∀ d ∈ c.docs, ListedEvent d := fun _ hd => by
  obtain ⟨k, hk⟩ := h.storedEvent hd
  exact hk.listed

theorem idsDistinct :
    c.docs.Pairwise fun a b => Value.storeEq (a.keyValue "_id") (b.keyValue "_id") = false := by
  have hkeys : c.entries.Pairwise fun p q => p.1 ≠ q.1 := List.pairwise_map.1 h.keys
  refine List.pairwise_map.2 (List.Pairwise.imp_of_mem ?_ hkeys)
  intro p q hp hq hpq
  obtain ⟨m, hm, hm'⟩ := (h.events p hp).keyValue_id
  obtain ⟨n, hn, hn'⟩ := (h.events q hq).keyValue_id
  rw [hm', hn']
  rw [hm, hn] at hpq
  simpa [Value.storeEq] using fun hmn => hpq (congrArg Value.objectId hmn)

theorem docs_length_lt : c.docs.length < 2 ^ 53 := by
  have hle := h.size_le
  simp only [size] at hle
  simp only [docs, List.length_map]
  omega

theorem readsBack : c.ReadsBack := by
  refine ⟨fun d hd => (h.listed d hd).view, fun ds hne hds => ?_⟩
  obtain ⟨rows, hrows, hfit⟩ := mapM_eq_ok_and_forall (P := fun r => ∀ col, (r.cell col).FitsCell)
    (fun d => Row.ofDocument (.record d)) ds fun d hd => by
      obtain ⟨_, hp⟩ := h.storedEvent (hds d hd)
      exact hp.row
  have hne' : rows ≠ [] := by
    intro hnil
    rw [hnil] at hrows
    exact hne (List.eq_nil_of_length_eq_zero (length_of_mapM_eq_ok hrows).symm)
  exact ⟨rows, hrows, ExportContent.write_ok hne' hfit⟩

end Collection.OfEvents

/-! ### Searches -/

namespace Collection

variable {c : Collection} {cond : Cond} {keys : List SortKey}

theorem mem_of_find {skip limit : Nat} {docs : List Record}
    (hfit : ∀ d ∈ c.docs, ∀ k ∈ keys, k.Fits d) (hf : c.find cond keys skip limit = .ok docs) :
    ∀ d ∈ docs, d ∈ c.docs := by
  unfold find at hf
  simp only [bind_eq_ok] at hf
  obtain ⟨M, hsel, ys, hord, hdocs⟩ := hf
  have hsub : M.Sublist c.docs := sublist_of_filterM_eq_ok hsel
  obtain ⟨ys', hord', hperm, -⟩ := order_spec keys M fun d hd => hfit d (hsub.subset hd)
  rw [hord, Except.ok.injEq] at hord'
  subst hord'
  replace hdocs : (if limit = 0 then ys.drop skip else (ys.drop skip).take limit) = docs :=
    Except.ok.inj hdocs
  subst hdocs
  intro d hd
  have hdrop : d ∈ ys.drop skip := by
    split at hd
    · exact hd
    · exact List.mem_of_mem_take hd
  exact hsub.subset (hperm.mem_iff.1 (List.mem_of_mem_drop hdrop))

theorem OfEvents.mem_of_findRecent (h : c.OfEvents) {limit : Nat} {docs : List Record}
    (hf : c.find cond newestFirst 0 limit = .ok docs) : ∀ d ∈ docs, d ∈ c.docs :=
  mem_of_find (fun d hd => (h.listed d hd).exportable.fits) hf

end Collection

/-! ### Conditions on the creation stamp -/

namespace Clause

def StampWindow : Clause → Prop
  | .field path tests => ∀ t ∈ tests, t.compares = false ∨
      (path = "createdAt" ∧ ∃ s, t = .atLeast (.stamp s) ∨ t = .atMost (.stamp s) ∨
        t = .below (.stamp s))
  | .either _ => False

end Clause

theorem Cond.holds_ok_of_stampWindow {cond : Cond} (hc : ∀ cl ∈ cond, cl.StampWindow)
    {d : Record} {u : Stamp} (hu : d.get? "createdAt" = some (.stamp u)) :
    ∃ b, Cond.holds (Clause.storedAll cond) (.record d) = .ok b := by
  rw [Cond.holds, Clause.storedAll_eq_map]
  refine allM_ok _ _ fun c' hc' => ?_
  obtain ⟨cl, hcl, rfl⟩ := List.mem_map.1 hc'
  cases cl with
  | either cs => exact (hc _ hcl).elim
  | field path tests =>
    refine Test.allHold_ok _ _ fun t ht x hx => ?_
    obtain ⟨t', ht', rfl⟩ := List.mem_map.1 ht
    rcases hc _ hcl t' ht' with hcmp | ⟨rfl, s, hs⟩
    · exact Test.holds_ok_of_compares (by rw [Test.compares_stored]; exact hcmp) x
    · -- the only value found is the creation stamp, compared with a stamp
      rw [Filters.splitOn_createdAt] at hx
      change x ∈ [d.get? "createdAt"] at hx
      rw [hu, List.mem_singleton] at hx
      subst hx
      rcases hs with rfl | rfl | rfl <;> simp only [Test.stored, Value.stored, Test.holds] <;>
        exact Test.cmpHolds_stamp_ok _ u _

namespace Collection.OfEvents

variable {c : Collection} (h : c.OfEvents)
include h

theorem select_stampWindow {cond : Cond} (hc : ∀ cl ∈ cond, cl.StampWindow) :
    c.select cond = .ok (c.docs.filter cond.selects) :=
  select_eq fun d hd => by
    obtain ⟨t, ht, -⟩ := (h.listed d hd).createdAt
    exact Cond.holds_ok_of_stampWindow hc ht

end Collection.OfEvents

/-! ### The daily counts -/

theorem StoredEvent.level {p : Value × Record} (h : StoredEvent p) :
    ∃ s, p.2.get? "level" = some (.str s) := by
  obtain ⟨e, t, n, -, -, -⟩ := h
  exact ⟨e.level.text, by simp [Record.get?_storedFields, Event.toDocument, Record.get?_append,
    Value.stored]⟩

def dayCodes (k : Date × Option Value) : List Int :=
  [k.1.year, k.1.month, k.1.day] ++ (Value.codes (k.2.getD .null)).map (fun n : Nat => (n : Int))

def DayKeyed (k : Date × Option Value) : Prop := ∃ s, k.2 = some (.str s)

def dayOrder (a b : Date × Option Value) : Bool := compare (dayCodes a) (dayCodes b) == .lt

theorem strictWeakOn_dayOrder : StrictWeakOn dayOrder DayKeyed :=
  (StrictWeakOn.of_cmp (S := fun _ => True) compare).comap dayCodes |>.mono
    (fun _ _ => trivial) fun _ _ _ _ => rfl

section DayOrder

theorem compare_map_natCast (cs ds : List Nat) :
    compare (cs.map (fun n : Nat => (n : Int))) (ds.map (fun n : Nat => (n : Int))) =
      compare cs ds := by
  induction cs generalizing ds with
  | nil => cases ds <;> rfl
  | cons c cs ih =>
    cases ds with
    | nil => rfl
    | cons d ds =>
      simp only [List.map_cons, List.compare_cons_cons, ih]
      congr 1
      simp only [compare, compareOfLessAndEq, Int.ofNat_lt, Int.natCast_inj]

theorem then_beq_lt (x y : Int) (o : Ordering) :
    ((compare x y).then o == .lt) = if x = y then (o == .lt) else decide (x < y) := by
  by_cases hxy : x = y
  · simp [hxy]
  · rcases lt_or_gt_of_ne hxy with hlt | hgt
    · simp [hxy, hlt, compare_lt_iff_lt.2 hlt, Ordering.then]
    · simp [hxy, not_lt_of_gt hgt, compare_gt_iff_gt.2 hgt, Ordering.then]

theorem sortLtFields_int (k : String) (x y : Int) (xs ys : List (String × Value)) :
    Value.sortLtFields ((k, .int x) :: xs) ((k, .int y) :: ys) =
      if x = y then Value.sortLtFields xs ys else .ok (decide (x < y)) := by
  by_cases hxy : x = y
  · subst hxy
    simp [Value.sortLtFields, Value.rank, Value.sameEq, Value.bothNaN, Value.looseEq,
      Value.looseNumber?, Exact.same, Exact.cmp]
  · simp [Value.sortLtFields, Value.rank, Value.sameEq, Value.bothNaN, Value.looseEq,
      Value.looseNumber?, Exact.same, Exact.cmp, hxy, Value.sortLt, Value.sortRank, Value.textOf?]
    by_cases hlt : x < y <;> simp [hlt, compare_lt_iff_lt]

theorem sortLtFields_str (k s t : String) :
    Value.sortLtFields [(k, .str s)] [(k, .str t)] =
      .ok (compare (Value.codes (.str s)) (Value.codes (.str t)) == .lt) := by
  by_cases hst : s = t
  · subst hst
    simp [Value.sortLtFields, Value.rank, Value.sameEq, Value.bothNaN, Value.looseEq]
  · simp [Value.sortLtFields, Value.rank, Value.sameEq, Value.bothNaN, Value.looseEq, hst]
    rw [Value.sortLt_eq_ok (a := .str s) (b := .str t) trivial trivial, Value.storeBefore,
      if_pos (show (Value.str s).rank = (Value.str t).rank from rfl),
      Value.kindBefore_of_rank_fifteen (a := .str s) (b := .str t) trivial trivial rfl rfl]

theorem sortLt_dayKey {a b : Date × Option Value} (ha : DayKeyed a) (hb : DayKeyed b) :
    Value.sortLt (dayKey a) (dayKey b) = .ok (dayOrder a b) := by
  obtain ⟨⟨y, m, d⟩, la⟩ := a
  obtain ⟨⟨y', m', d'⟩, lb⟩ := b
  obtain ⟨s, rfl⟩ := ha
  obtain ⟨t, rfl⟩ := hb
  have hfields : Value.sortLt (dayKey ((⟨y, m, d⟩ : Date), some (.str s)))
      (dayKey ((⟨y', m', d'⟩ : Date), some (.str t))) =
      Value.sortLtFields [("year", .int y), ("month", .int m), ("day", .int d), ("level", .str s)]
        [("year", .int y'), ("month", .int m'), ("day", .int d'), ("level", .str t)] := by
    simp [dayKey, Value.sortLt, Value.sortRank, Value.rank, bind, Except.bind, pure, Except.pure,
      List.mapM_cons]
  rw [hfields, sortLtFields_int, sortLtFields_int, sortLtFields_int, sortLtFields_str, dayOrder,
    dayCodes, dayCodes]
  simp only [Option.getD_some, List.cons_append, List.nil_append, List.compare_cons_cons,
    then_beq_lt, compare_map_natCast]
  split_ifs <;> rfl

end DayOrder

namespace Collection.OfEvents

variable {c : Collection} (h : c.OfEvents)
include h

theorem dailyLevelCounts_ok (since upto : Stamp) :
    ∃ rows, c.dailyLevelCounts since upto = .ok rows ∧ ∀ r ∈ rows, DayKeyed r.1 := by
  have hwindow : ∀ cl ∈ ([.field "createdAt" [.atLeast (.stamp since), .atMost (.stamp upto)]] :
      Cond), cl.StampWindow := by
    simp [Clause.StampWindow]
  have hsel := h.select_stampWindow hwindow
  unfold dailyLevelCounts
  dsimp only
  rw [hsel]
  simp only [bind, Except.bind]
  generalize hK : List.filterMap _ (List.filter _ c.docs) = K
  have hkeys : ∀ k ∈ K, DayKeyed k := by
    intro k hk
    rw [← hK] at hk
    obtain ⟨d, hd, hdk⟩ := List.mem_filterMap.1 hk
    obtain ⟨_, hp⟩ := h.storedEvent (List.mem_filter.1 hd).1
    obtain ⟨s, hs⟩ := hp.level
    obtain ⟨t, ht, -⟩ := hp.createdAt
    simp only [ht, Option.some.injEq] at hdk
    exact ⟨s, by rw [← hdk, hs]⟩
  obtain ⟨sorted, hsorted, hstable⟩ := sortByM_spec strictWeakOn_dayOrder
    (fun a b ha hb => sortLt_dayKey ha hb) false K hkeys
  rw [hsorted]
  exact ⟨_, rfl, fun r hr => hkeys _ (hstable.perm.mem_iff.1 (fst_mem_of_mem_runs hr))⟩

end Collection.OfEvents

end AuditTrail
