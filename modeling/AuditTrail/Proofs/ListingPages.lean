import AuditTrail.Proofs.StoreReads
import AuditTrail.Proofs.Gathering
import AuditTrail.Proofs.PageCount
import AuditTrail.Service.Listing

/-!
# Pages of a listing

On a quiet store of readable events with ids told apart, a listing's order is strict, so page `n`
does not depend on the stored order, and pages `1` to `⌈N / s⌉` hold every event once.
-/

namespace AuditTrail

/-! ### Pages of a list -/

section Pages

variable {α : Type}

/-- The items on page `n`, counted from one, of a list cut into pages of `s`. -/
def pageSlice (xs : List α) (s n : Nat) : List α := (xs.drop ((n - 1) * s)).take s

theorem flatMap_pageSlice (xs : List α) (s k : Nat) :
    (List.range k).flatMap (fun i => pageSlice xs s (i + 1)) = xs.take (k * s) := by
  induction k with
  | zero => simp
  | succ k ih =>
    rw [List.range_succ, List.flatMap_append, ih, Nat.succ_mul, List.take_add]
    simp [pageSlice]

theorem length_le_pageCount_mul (xs : List α) {s : Nat} (hs : 0 < s) :
    xs.length ≤ (xs.length + s - 1) / s * s := by
  have h := Nat.lt_div_mul_add (a := xs.length + s - 1) hs
  omega

theorem flatMap_pageSlice_all (xs : List α) {s : Nat} (hs : 0 < s) :
    (List.range ((xs.length + s - 1) / s)).flatMap (fun i => pageSlice xs s (i + 1)) = xs := by
  rw [flatMap_pageSlice]
  exact List.take_of_length_le (length_le_pageCount_mul xs hs)

theorem pageSlice_eq_nil (xs : List α) {s n : Nat} (hs : 0 < s)
    (hn : (xs.length + s - 1) / s < n) : pageSlice xs s n = [] := by
  have hle : (xs.length + s - 1) / s * s ≤ (n - 1) * s := Nat.mul_le_mul_right s (by omega)
  unfold pageSlice
  rw [List.drop_eq_nil_of_le (by have := length_le_pageCount_mul xs hs; omega), List.take_nil]

end Pages

/-! ### The summary -/

namespace Summary

theorem rangeEnd_ok (name : String) {v : Option Value}
    (hv : ∀ w ∈ v, Collection.NaiveStamp w) : ∃ t, rangeEnd name v = .ok t := by
  cases v with
  | none => exact ⟨none, rfl⟩
  | some w =>
    obtain ⟨t, rfl, -⟩ := hv w rfl
    exact ⟨some t, rfl⟩

theorem ofReads_ok (counts : List (Value × Nat)) (users : Nat)
    (range : Option Value × Option Value) (hlo : ∀ w ∈ range.1, Collection.NaiveStamp w)
    (hhi : ∀ w ∈ range.2, Collection.NaiveStamp w) :
    ∃ s, ofReads counts users range = .ok s := by
  obtain ⟨lo, hlo'⟩ := rangeEnd_ok "oldest" hlo
  obtain ⟨hi, hhi'⟩ := rangeEnd_ok "newest" hhi
  simp only [ofReads, hlo', hhi', bind, Except.bind, pure, Except.pure]
  exact ⟨_, rfl⟩

end Summary

/-! ### Documents a listing can show -/

section Documents

theorem Record.keyValue_sortPath (d : Record) {p : String} (hp : p ∈ sortPaths) :
    d.keyValue p = (d.get? p).getD .null := by
  unfold Record.keyValue
  rw [atPath_sortPath d hp]

/-- A stored document every read of a listing answers on: its text fields are text or
missing, it was created at a naive stamp, and its id is sortable. -/
structure ReadableEvent (d : Record) : Prop where
  textual : ∀ p ∈ textPaths, ((d.get? p).getD .null).IsTextOrNull
  createdAt : ∃ t : Stamp, d.get? "createdAt" = some (.stamp t) ∧ t.offset = none
  idSortable : (d.keyValue "_id").Sortable

/-- A stored document a listing can show: it reads as an event, it was created at a naive
stamp, and its id is sortable and no aware stamp. -/
structure ListedEvent (d : Record) : Prop where
  view : ∃ v, EventView.ofDocument d = .ok v
  createdAt : ∃ t : Stamp, d.get? "createdAt" = some (.stamp t) ∧ t.offset = none
  idSortable : (d.keyValue "_id").Sortable
  idNaive : (d.keyValue "_id").Naive

variable {d : Record}

theorem ListedEvent.readable (h : ListedEvent d) : ReadableEvent d where
  textual p hp := by
    obtain ⟨v, hv⟩ := h.view
    cases hx : d.get? p with
    | none => exact trivial
    | some x => exact EventView.ofDocument_textual hv p hp x hx
  createdAt := h.createdAt
  idSortable := h.idSortable

namespace ReadableEvent

theorem keyValue_textual (h : ReadableEvent d) {p : String} (hp : p ∈ textPaths) :
    (d.keyValue p).IsTextOrNull := by
  rw [Record.keyValue_sortPath d (List.mem_cons_of_mem _ (List.mem_cons_of_mem _ hp))]
  exact h.textual p hp

theorem keyValue_createdAt (h : ReadableEvent d) :
    ∃ t : Stamp, d.keyValue "createdAt" = .stamp t ∧ t.offset = none := by
  obtain ⟨t, ht, hoff⟩ := h.createdAt
  refine ⟨t, ?_, hoff⟩
  rw [Record.keyValue_sortPath d (by simp [sortPaths]), ht]
  rfl

theorem fits (h : ReadableEvent d) (q : Listing) : ∀ k ∈ q.sortKeys, k.Fits d := by
  have hcreated : (d.keyValue "createdAt").Sortable := by
    obtain ⟨t, ht, -⟩ := h.keyValue_createdAt
    rw [ht]
    trivial
  have htext : ∀ f : SortField, f ≠ .createdAt → (d.keyValue f.text).Sortable := fun f hf =>
    (h.keyValue_textual (by cases f <;> simp_all [SortField.text, textPaths])).sortable
  unfold Listing.sortKeys
  split
  · simp [SortKey.Fits, hcreated, h.idSortable]
  · rename_i hf
    simp [SortKey.Fits, hcreated, h.idSortable, htext q.sortBy hf]

end ReadableEvent

theorem perm_of_order_eq {q : Listing} {M ys : List Record} (hM : ∀ d ∈ M, ReadableEvent d)
    (hord : Collection.order q.sortKeys M = .ok ys) : ys.Perm M := by
  obtain ⟨ys', hys', hperm, -⟩ := order_spec q.sortKeys M fun d hd => (hM d hd).fits q
  rw [hord, Except.ok.injEq] at hys'
  exact hys' ▸ hperm

end Documents

def IdsApart (a b : Record) : Prop :=
  Value.storeBefore (a.keyValue "_id") (b.keyValue "_id") = true ∨
    Value.storeBefore (b.keyValue "_id") (a.keyValue "_id") = true

theorem IdsApart.symm {a b : Record} (h : IdsApart a b) : IdsApart b a := Or.symm h

theorem idsApart_of_storeEq {a b : Record} (hsa : (a.keyValue "_id").Sortable)
    (hsb : (b.keyValue "_id").Sortable) (hna : (a.keyValue "_id").Naive)
    (hnb : (b.keyValue "_id").Naive)
    (h : Value.storeEq (a.keyValue "_id") (b.keyValue "_id") = false) : IdsApart a b := by
  by_contra hn
  simp only [IdsApart, not_or, Bool.not_eq_true] at hn
  have htied := Value.storeEq_of_tied hsa hsb hna hnb hn.1 hn.2
  rw [h] at htied
  cases htied

theorem ListedEvent.idsApart {a b : Record} (ha : ListedEvent a) (hb : ListedEvent b)
    (h : Value.storeEq (a.keyValue "_id") (b.keyValue "_id") = false) : IdsApart a b :=
  idsApart_of_storeEq ha.idSortable hb.idSortable ha.idNaive hb.idNaive h

theorem Listing.mem_sortKeys_id (q : Listing) : ∃ o, (⟨"_id", o⟩ : SortKey) ∈ q.sortKeys := by
  unfold Listing.sortKeys
  split
  · exact ⟨q.sortOrder, by simp⟩
  · exact ⟨.desc, by simp⟩

theorem keysBefore_of_idsApart_of_mem {keys : List SortKey} {o : SortOrder}
    (ho : (⟨"_id", o⟩ : SortKey) ∈ keys) {a b : Record} (hab : NotAfterByKeys keys a b)
    (hid : IdsApart a b) : keysBefore keys a b = true := by
  refine keysBefore_of_notAfter hab ⟨_, ho, ?_⟩
  unfold IdsApart at hid
  cases o with
  | asc => simpa [SortKey.before] using hid
  | desc => simpa [SortKey.before] using Or.symm hid

theorem keysBefore_of_idsApart {q : Listing} {a b : Record} (hab : NotAfterByKeys q.sortKeys a b)
    (hid : IdsApart a b) : keysBefore q.sortKeys a b = true := by
  obtain ⟨o, ho⟩ := q.mem_sortKeys_id
  exact keysBefore_of_idsApart_of_mem ho hab hid

theorem order_strict (q : Listing) {M : List Record} (hM : ∀ d ∈ M, ListedEvent d)
    (hid : M.Pairwise IdsApart) :
    ∃ ys, Collection.order q.sortKeys M = .ok ys ∧ ys.Perm M ∧
      ys.Pairwise (fun a b => keysBefore q.sortKeys a b = true) := by
  obtain ⟨ys, hys, hperm, hsorted⟩ := order_spec q.sortKeys M fun d hd => (hM d hd).readable.fits q
  have hid' : ys.Pairwise IdsApart := (hperm.pairwise_iff IdsApart.symm).2 hid
  exact ⟨ys, hys, hperm, hsorted.imp₂ (fun _ _ => keysBefore_of_idsApart) hid'⟩

theorem eq_of_perm_of_strict (q : Listing) {ys zs : List Record} (hys : ∀ d ∈ ys, ListedEvent d)
    (hp : ys.Perm zs) (hy : ys.Pairwise (fun a b => keysBefore q.sortKeys a b = true))
    (hz : zs.Pairwise (fun a b => keysBefore q.sortKeys a b = true)) : ys = zs := by
  refine hp.eq_of_pairwise (fun a b ha hb hab hba => ?_) hy hz
  have hasymm := keysBefore_asymm ((hys a ha).readable.fits q)
    ((hys b (hp.mem_iff.2 hb)).readable.fits q) hab
  rw [hba] at hasymm
  cases hasymm

/-! ### A listing whose reads answer -/

namespace Service

theorem onDb_bind_run' {α β : Type} (x : StateM Db α) (f : α → StateM Service β) (sv : Service) :
    (onDb x >>= f).run' sv = (f (x sv.db).1).run' { sv with db := (x sv.db).2 } := rfl

theorem get_bind_run' {β : Type} (f : Service → StateM Service β) (sv : Service) :
    ((get : StateM Service Service) >>= f).run' sv = (f sv).run' sv := rfl

section
variable {sv : Service} {q : Listing} {excludeSelfAudit : Bool} {docs : List Record} {total : Nat}
  {counts : List (Value × Nat)} {users : Nat} {range : Option Value × Option Value}
  {summary : Summary}

theorem query_run' (hq : sv.db.Quiet)
    (hfind : sv.db.coll.find (q.toFilters.cond excludeSelfAudit) q.sortKeys
      ((q.page - 1) * q.pageSize) q.pageSize = .ok docs)
    (hcount : sv.db.coll.count (q.toFilters.cond excludeSelfAudit) = .ok total)
    (hcounts : sv.db.coll.levelCounts (q.toFilters.cond excludeSelfAudit) = .ok counts)
    (husers : sv.db.coll.distinctCount (q.toFilters.cond excludeSelfAudit) "userId" = .ok users)
    (hrange : sv.db.coll.createdRange (q.toFilters.cond excludeSelfAudit) = .ok range)
    (hsummary : Summary.ofReads counts users range = .ok summary) :
    (query q excludeSelfAudit).run' sv = (do
      let events ← docs.mapM EventView.ofDocument
      let pagination ← Pagination.build total q.page q.pageSize
      pure ({ events, pagination, summary } : LogsPage) : Except Failure LogsPage) := by
  unfold query
  rw [onDb_bind_run', (Db.gather_quiet hq ?hw).1]
  rw [get_bind_run']
  dsimp only
  rw [(Db.gather_quiet hq ?hw).2, if_neg Bool.false_ne_true]
  simp only [hfind, hcount, hcounts, husers, hrange, hsummary, bind, Except.bind, pure,
    Except.pure]
  · rfl
  · -- every read of the gathering answers on the collection
    intro w hw
    simp only [List.mem_cons, List.not_mem_nil, or_false] at hw
    rcases hw with rfl | rfl | rfl
    · simp [Db.WorkPasses, hfind, failureOf]
    · simp [Db.WorkPasses, hcount, failureOf]
    · simp [Db.WorkPasses, hcounts, husers, hrange, hsummary, failureOf, bind, Except.bind]

/-- On a quiet store of readable documents, every read of a listing answers: the listing shows
its page of the matching documents in order, with the pagination of their number, once every
event on the page reads. -/
theorem query_eq (hq : sv.db.Quiet) (hread : ∀ d ∈ sv.db.coll.docs, ReadableEvent d)
    (hs : 0 < q.pageSize) {ys : List Record} (hord : Collection.order q.sortKeys
      (sv.db.coll.docs.filter (q.toFilters.cond excludeSelfAudit).selects) = .ok ys) :
    ∃ summary, (query q excludeSelfAudit).run' sv = (do
      let events ← (pageSlice ys q.pageSize q.page).mapM EventView.ofDocument
      let pagination ← Pagination.build ys.length q.page q.pageSize
      pure ({ events, pagination, summary } : LogsPage) : Except Failure LogsPage) := by
  have hM : ∀ d ∈ sv.db.coll.docs.filter (q.toFilters.cond excludeSelfAudit).selects,
      ReadableEvent d := fun d hd => hread d (List.mem_filter.1 hd).1
  have hsel : sv.db.coll.select (q.toFilters.cond excludeSelfAudit) =
      .ok (sv.db.coll.docs.filter (q.toFilters.cond excludeSelfAudit).selects) :=
    Collection.select_eq fun d hd => by
      obtain ⟨t, ht, -⟩ := (hread d hd).createdAt
      exact Filters.cond_holds_ok _ _ ht
  have hperm := perm_of_order_eq hM hord
  obtain ⟨counts, hcounts⟩ := Collection.levelCounts_ok hsel fun d hd =>
    (hM d hd).textual "level" (by simp [textPaths])
  obtain ⟨users, husers⟩ : ∃ n,
      sv.db.coll.distinctCount (q.toFilters.cond excludeSelfAudit) "userId" = .ok n :=
    Collection.distinctCount_ok hsel fun d hd v hv => by
      rw [atPath_sortPath d (by simp [sortPaths, textPaths])] at hv
      simpa [hv] using (hM d hd).textual "userId" (by simp [textPaths])
  obtain ⟨lo, hi, hrange, hlo, hhi⟩ := Collection.createdRange_ok hsel fun d hd =>
    (hM d hd).createdAt
  obtain ⟨summary, hsummary⟩ := Summary.ofReads_ok counts users (lo, hi) hlo hhi
  refine ⟨summary, ?_⟩
  rw [query_run' hq (Collection.find_eq hsel hord _ (Nat.pos_iff_ne_zero.1 hs))
    (Collection.count_eq hsel) hcounts husers hrange hsummary, hperm.length_eq]
  rfl

end

theorem query_page (sv : Service) (q : Listing) (excludeSelfAudit : Bool) (hq : sv.db.Quiet)
    (hread : ∀ d ∈ sv.db.coll.docs, ReadableEvent d) (hsmall : sv.db.coll.docs.length < 2 ^ 53)
    (hs : 0 < q.pageSize) (hs' : q.pageSize < 2 ^ 53)
    {ys : List Record} {views : List EventView}
    (hord : Collection.order q.sortKeys
      (sv.db.coll.docs.filter (q.toFilters.cond excludeSelfAudit).selects) = .ok ys)
    (hviews : ys.mapM EventView.ofDocument = .ok views) :
    ∃ p, (query q excludeSelfAudit).run' sv = .ok p ∧
      p.events = pageSlice views q.pageSize q.page ∧
      p.pagination.totalPages = ((views.length + q.pageSize - 1) / q.pageSize : Nat) := by
  obtain ⟨summary, hquery⟩ := query_eq hq hread hs hord
  have hlen : ys.length = views.length := (length_of_mapM_eq_ok hviews).symm
  have hN : ys.length < 2 ^ 53 := by
    rw [(perm_of_order_eq (fun d hd => hread d (List.mem_filter.1 hd).1) hord).length_eq]
    exact Nat.lt_of_le_of_lt (List.length_filter_le _ _) hsmall
  rw [hquery, pageSlice, mapM_take (mapM_drop hviews _) _,
    Pagination.build_eq _ _ hN (Nat.pos_iff_ne_zero.1 hs) hs', hlen]
  exact ⟨_, rfl, rfl, rfl⟩

/-- A store every listing of which answers: no fault planned and no work in flight, every
document reads as an event created at a naive stamp, no two ids the store counts equal, and
fewer than `2^53` documents. -/
structure Listable (sv : Service) : Prop where
  quiet : sv.db.Quiet
  listed : ∀ d ∈ sv.db.coll.docs, ListedEvent d
  idsDistinct : sv.db.coll.docs.Pairwise fun a b =>
    Value.storeEq (a.keyValue "_id") (b.keyValue "_id") = false
  small : sv.db.coll.docs.length < 2 ^ 53

end Service

/-- For every stored order, page `n` of a listing on a listable store is the `n`-th slice of its
strictly ordered events, and pages one to `⌈N / s⌉` hold every event once. -/
theorem listing_pages (sv : Service) (q : Listing) (excludeSelfAudit : Bool) (h : sv.Listable)
    (hs : 0 < q.pageSize) (hs' : q.pageSize < 2 ^ 53) :
    ∃ (ys : List Record) (views : List EventView),
      ys.Perm (sv.db.coll.docs.filter (q.toFilters.cond excludeSelfAudit).selects) ∧
      ys.Pairwise (fun a b => keysBefore q.sortKeys a b = true) ∧
      ys.mapM EventView.ofDocument = .ok views ∧
      (List.range ((views.length + q.pageSize - 1) / q.pageSize)).flatMap
          (fun i => pageSlice views q.pageSize (i + 1)) = views ∧
      ∀ es, es.Perm sv.db.coll.entries → ∀ n, ∃ p,
        (Service.query { q with page := n } excludeSelfAudit).run'
            { sv with db := { sv.db with coll := { sv.db.coll with entries := es } } } = .ok p ∧
          p.pagination.totalPages = ((views.length + q.pageSize - 1) / q.pageSize : Nat) ∧
          p.events = pageSlice views q.pageSize n ∧
          ((views.length + q.pageSize - 1) / q.pageSize < n → p.events = []) := by
  have hid : sv.db.coll.docs.Pairwise IdsApart := h.idsDistinct.imp_of_mem fun ha hb hab =>
    (h.listed _ ha).idsApart (h.listed _ hb) hab
  have hM : ∀ d ∈ sv.db.coll.docs.filter (q.toFilters.cond excludeSelfAudit).selects,
      ListedEvent d := fun d hd => h.listed d (List.mem_filter.1 hd).1
  obtain ⟨ys, -, hperm, hstrict⟩ := order_strict q hM (hid.filter _)
  obtain ⟨views, hviews⟩ := mapM_eq_ok_of_forall _ ys fun d hd => (hM d (hperm.mem_iff.1 hd)).view
  refine ⟨ys, views, hperm, hstrict, hviews, flatMap_pageSlice_all views hs, fun es hes n => ?_⟩
  -- stored in another order, the documents are the same and the matching ones sort alike
  have hdocs : (es.map (·.2)).Perm sv.db.coll.docs := hes.map _
  have hsel : ((es.map (·.2)).filter (q.toFilters.cond excludeSelfAudit).selects).Perm
      (sv.db.coll.docs.filter (q.toFilters.cond excludeSelfAudit).selects) := hdocs.filter _
  obtain ⟨ys', hord', hperm', hstrict'⟩ := order_strict q
    (fun d hd => hM d (hsel.mem_iff.1 hd)) ((hsel.pairwise_iff IdsApart.symm).2 (hid.filter _))
  have hys : ys' = ys := eq_of_perm_of_strict q (fun d hd => hM d (hsel.mem_iff.1
    (hperm'.mem_iff.1 hd))) (hperm'.trans (hsel.trans hperm.symm)) hstrict' hstrict
  subst hys
  obtain ⟨p, hp, hevents, hpages⟩ := Service.query_page
    { sv with db := { sv.db with coll := { sv.db.coll with entries := es } } }
    { q with page := n } excludeSelfAudit ⟨h.quiet.noFault, h.quiet.idle⟩
    (fun d hd => (h.listed d (hdocs.mem_iff.1 hd)).readable) (hdocs.length_eq ▸ h.small) hs hs'
    hord' hviews
  exact ⟨p, hp, hpages, hevents, fun hn => hevents.trans (pageSlice_eq_nil views hs hn)⟩

def tiedEvents : Service where
  db := { coll := { entries := [
    (.int 1, [("_id", .int 1), ("level", .str "info"), ("action", .str "login"),
      ("message", .str "a"), ("createdAt", .stamp ⟨1717200000000000, none⟩)]),
    (.int 2, [("_id", .int 2), ("level", .str "info"), ("action", .str "login"),
      ("message", .str "b"), ("createdAt", .stamp ⟨1717200000000000, none⟩)])], nextId := 3 } }
  clock := ⟨1717200000000000, none⟩

theorem listing_pages_tied_events : tiedEvents.Listable ∧
    ∃ (ys : List Record) (views : List EventView),
      ys.Perm (tiedEvents.db.coll.docs.filter
        (({ pageSize := 1 } : Listing).toFilters.cond false).selects) ∧
      ys.Pairwise (fun a b => keysBefore ({ pageSize := 1 } : Listing).sortKeys a b = true) ∧
      ys.mapM EventView.ofDocument = .ok views ∧
      (List.range ((views.length + 1 - 1) / 1)).flatMap (fun i => pageSlice views 1 (i + 1)) =
        views ∧
      ∀ es, es.Perm tiedEvents.db.coll.entries → ∀ n, ∃ p,
        (Service.query { ({ pageSize := 1 } : Listing) with page := n } false).run'
            { tiedEvents with db := { tiedEvents.db with
                coll := { tiedEvents.db.coll with entries := es } } } = .ok p ∧
          p.pagination.totalPages = ((views.length + 1 - 1) / 1 : Nat) ∧
          p.events = pageSlice views 1 n ∧
          ((views.length + 1 - 1) / 1 < n → p.events = []) := by
  have hid : ∀ d : Record, d.keyValue "_id" = (d.get? "_id").getD .null := fun d =>
    Record.keyValue_sortPath d (by simp [sortPaths])
  have h : tiedEvents.Listable := by
    refine ⟨⟨(fun _ _ hp => by cases hp), rfl⟩, fun d hd => ?_, ?_, by decide⟩
    · simp only [tiedEvents, Collection.docs, List.map, List.mem_cons, List.not_mem_nil,
        or_false] at hd
      rcases hd with rfl | rfl
      all_goals exact ⟨⟨_, rfl⟩, ⟨_, rfl, rfl⟩, by rw [hid]; trivial, by rw [hid]; trivial⟩
    · simp only [tiedEvents, Collection.docs, List.map, List.pairwise_cons, List.mem_cons,
        List.not_mem_nil, or_false, forall_eq, false_implies, implies_true, List.Pairwise.nil,
        and_true, hid]
      decide +kernel
  exact ⟨h, listing_pages tiedEvents { pageSize := 1 } false h (by decide) (by decide)⟩

def messagelessEvent : Service where
  db := { coll := { entries := [
    (.int 1, [("_id", .int 1), ("level", .str "info"), ("action", .str "login"),
      ("createdAt", .stamp ⟨1717200000000000, none⟩)])], nextId := 2 } }
  clock := ⟨1717200000000000, none⟩

/-- A stored document with no message is selected by the listing of everything, which fails
with the missing field instead of showing it. -/
theorem listing_unreadable_document_fails :
    messagelessEvent.db.coll.docs.filter (({} : Listing).toFilters.cond false).selects =
        messagelessEvent.db.coll.docs ∧
      (Service.query {} false).run' messagelessEvent =
        .error (.unfit ⟨["message"], .missing⟩) := by
  have hsel : messagelessEvent.db.coll.docs.filter (({} : Listing).toFilters.cond false).selects =
      messagelessEvent.db.coll.docs := List.filter_eq_self.2 fun d hd => by
    simp only [messagelessEvent, Collection.docs, List.map, List.mem_singleton] at hd
    subst hd
    decide +kernel
  have hread : ∀ d ∈ messagelessEvent.db.coll.docs, ReadableEvent d := fun d hd => by
    simp only [messagelessEvent, Collection.docs, List.map, List.mem_singleton] at hd
    subst hd
    refine ⟨fun p hp => ?_, ⟨_, rfl, rfl⟩, ?_⟩
    · simp only [textPaths, List.mem_cons, List.not_mem_nil, or_false] at hp
      rcases hp with rfl | rfl | rfl | rfl | rfl | rfl <;> trivial
    · rw [Record.keyValue_sortPath _ (by simp [sortPaths])]
      trivial
  obtain ⟨ys, hord, hperm, -⟩ := order_spec ({} : Listing).sortKeys
    (messagelessEvent.db.coll.docs.filter (({} : Listing).toFilters.cond false).selects)
    fun d hd => (hread d (List.mem_filter.1 hd).1).fits {}
  rw [hsel] at hperm
  obtain ⟨summary, hquery⟩ := Service.query_eq ⟨(fun _ _ hp => by cases hp), rfl⟩ hread
    (by decide) hord
  refine ⟨hsel, ?_⟩
  rw [hquery, List.perm_singleton.1 hperm]
  rfl

end AuditTrail
