import AuditTrail.Proofs.ListingPages
import AuditTrail.Proofs.ReadOnlyWork
import AuditTrail.Service.Export
import AuditTrail.Request.Read

/-!
# What an export writes

On a store whose work in flight only reads, an export writes the first `cap` matching documents
in the strict newest-first order, or fails with its generic failure; with no fault planned it is
the listing's pages run together (`export_newest_first`).
-/

namespace AuditTrail

/-! ### The record cap -/

theorem Form.withDefault_eq_ok {α : Type} {r : Record} {wire other : String} {dflt a : α}
    {read : Value → Except Issue.Kind α} (h : Form.withDefault r wire other dflt read = .ok a) :
    a = dflt ∨ ∃ v, read v = .ok a := by
  unfold Form.withDefault at h
  split at h
  · cases h
    exact .inl rfl
  · rename_i k v _
    split at h
    · rename_i a' ha'
      cases h
      exact .inr ⟨v, ha'⟩
    · cases h

namespace ExportRequest

theorem maxRecordsField_bounds {v : Value} {n : Nat} (h : maxRecordsField v = .ok n) :
    0 < n ∧ n ≤ maxRecordsCeiling := by
  unfold maxRecordsField at h
  obtain ⟨m, hm, hn⟩ := bind_eq_ok.1 h
  cases hn
  unfold Form.intAtLeast at hm
  obtain ⟨k, -, hk⟩ := bind_eq_ok.1 hm
  by_cases hlt : k < 1
  · rw [if_pos hlt] at hk
    cases hk
  · rw [if_neg hlt] at hk
    cases hk
    constructor <;> simp only [maxRecordsCeiling] <;> omega

theorem parse_maxRecords {v : Value} {r : ExportRequest} (h : parse v = .ok r) :
    0 < r.maxRecords ∧ r.maxRecords ≤ maxRecordsCeiling := by
  unfold parse at h
  split at h
  · split at h
    · obtain ⟨u, -, hread⟩ := bind_eq_ok.1 h
      rw [mapError_eq_ok] at hread
      unfold read at hread
      obtain ⟨rec, -, hrest⟩ := bind_eq_ok.1 hread
      obtain ⟨f, -, hrest⟩ := bind_eq_ok.1 hrest
      obtain ⟨fmt, -, hrest⟩ := bind_eq_ok.1 hrest
      obtain ⟨cap, hcap, hrest⟩ := bind_eq_ok.1 hrest
      obtain ⟨u, -, hrest⟩ := bind_eq_ok.1 hrest
      cases hrest
      rcases Form.withDefault_eq_ok hcap with rfl | ⟨w, hw⟩
      · exact ⟨by simp [defaultRecords], by simp [defaultRecords, maxRecordsCeiling]⟩
      · exact maxRecordsField_bounds hw
    · cases h
  · cases h

def listing (r : ExportRequest) (s n : Nat) : Listing :=
  { r.toFilters with sortBy := .createdAt, sortOrder := .desc, page := n, pageSize := s }

@[simp] theorem listing_sortKeys (r : ExportRequest) (s n : Nat) :
    (r.listing s n).sortKeys = newestFirst := rfl

def listingPages (r : ExportRequest) (s k : Nat) (sv : Service) : Except Failure (List LogsPage) :=
  (List.range k).mapM fun i => (Service.query (r.listing s (i + 1)) false).run' sv

@[simp] theorem listing_toFilters (r : ExportRequest) (s n : Nat) :
    (r.listing s n).toFilters = r.toFilters := rfl

end ExportRequest

/-! ### Documents in newest-first order -/

/-- A stored document an export can order: created at a naive stamp, with an id that is
sortable and no aware stamp. -/
structure ExportableEvent (d : Record) : Prop where
  createdAt : ∃ t : Stamp, d.get? "createdAt" = some (.stamp t) ∧ t.offset = none
  idSortable : (d.keyValue "_id").Sortable
  idNaive : (d.keyValue "_id").Naive

theorem ListedEvent.exportable {d : Record} (h : ListedEvent d) : ExportableEvent d :=
  ⟨h.createdAt, h.idSortable, h.idNaive⟩

theorem ExportableEvent.listed {d : Record} (h : ExportableEvent d)
    (hv : ∃ v, EventView.ofDocument d = .ok v) : ListedEvent d :=
  ⟨hv, h.createdAt, h.idSortable, h.idNaive⟩

theorem ExportableEvent.fits {d : Record} (h : ExportableEvent d) : ∀ k ∈ newestFirst, k.Fits d := by
  obtain ⟨t, ht, -⟩ := h.createdAt
  have hcreated : d.keyValue "createdAt" = .stamp t := by
    rw [Record.keyValue_sortPath d (by simp [sortPaths]), ht]
    rfl
  intro k hk
  simp only [newestFirst, List.mem_cons, List.not_mem_nil, or_false] at hk
  rcases hk with rfl | rfl
  · simp only [SortKey.Fits, hcreated]
    trivial
  · exact h.idSortable

theorem ExportableEvent.idsApart {a b : Record} (ha : ExportableEvent a) (hb : ExportableEvent b)
    (h : Value.storeEq (a.keyValue "_id") (b.keyValue "_id") = false) : IdsApart a b :=
  idsApart_of_storeEq ha.idSortable hb.idSortable ha.idNaive hb.idNaive h

/-- Exportable documents with ids told apart are ordered strictly newest first. -/
theorem order_newestFirst_strict {M : List Record} (hM : ∀ d ∈ M, ExportableEvent d)
    (hid : M.Pairwise IdsApart) :
    ∃ ys, Collection.order newestFirst M = .ok ys ∧ ys.Perm M ∧
      ys.Pairwise (fun a b => keysBefore newestFirst a b = true) := by
  obtain ⟨ys, hys, hperm, hsorted⟩ := order_spec newestFirst M fun d hd => (hM d hd).fits
  have hid' : ys.Pairwise IdsApart := (hperm.pairwise_iff IdsApart.symm).2 hid
  exact ⟨ys, hys, hperm, hsorted.imp₂ (fun _ _ =>
    keysBefore_of_idsApart_of_mem (o := .desc) (by simp [newestFirst])) hid'⟩

/-! ### The read -/

theorem Db.pause_of_idle {db : Db} (h : db.queue = []) : db.pause = db := by
  show runUntilMain (db.enqueue .resumeMain).fuel (db.enqueue .resumeMain) = db
  rw [show (db.enqueue .resumeMain).fuel = 8 + 1 by simp [fuel, enqueue, h, totalWeight, Entry.weight]]
  simp only [runUntilMain, runFront, enqueue, h, List.nil_append, List.drop_succ_cons,
    List.drop_zero]
  cases db
  simp_all

theorem Db.read_of_quiet {db : Db} (h : db.Quiet) {α : Type} (m : StoreMethod)
    (op : Collection → Except Failure α) : (Db.read m op db).1 = op db.coll := by
  have hcall : Db.call m op db = (op db.coll, db) := by
    unfold Db.call
    rw [attempt_eq h.noFault]
  unfold Db.read
  rw [bind_apply, hcall]
  dsimp only
  cases hop : op db.coll with
  | error f =>
    -- no fault fires, so a failure is the operation's own, which a second try repeats
    dsimp only
    split
    · rw [bind_apply]
      dsimp only [modify, modifyGet, MonadStateOf.modifyGet, StateT.modifyGet]
      rw [pause_of_idle h.idle]
      exact (congrArg Prod.fst hcall).trans hop
    · rfl
  | ok a => rfl

/-! ### The export -/

/-- The file an export writes of documents: each flattened, in order, and written in the
format, stamped with the date of `t`; a writer that refuses the rows gives the generic export
failure. -/
def ExportRequest.fileOf (r : ExportRequest) (fmt : ExportFormat) (t : Stamp) (docs : List Record) :
    Except Failure ExportResult := do
  let rows ← docs.mapM (fun d => Row.ofDocument (.record d))
  let content ← (ExportContent.write fmt rows r.toValue.withoutNulls t).mapError
    (fun _ => .exportFailed Service.exportFailedText)
  pure { content, recordCount := rows.length, mediaType := fmt.mediaType,
         filename := "parking-logs-" ++ Stamp.dateText t.date ++ "." ++ fmt.extension }

theorem ExportRequest.recordCount_fileOf {r : ExportRequest} {fmt : ExportFormat} {t : Stamp}
    {docs : List Record} {res : ExportResult} (h : r.fileOf fmt t docs = .ok res) :
    res.recordCount = docs.length := by
  unfold fileOf at h
  obtain ⟨rows, hrows, h⟩ := bind_eq_ok.1 h
  obtain ⟨content, -, h⟩ := bind_eq_ok.1 h
  cases h
  exact length_of_mapM_eq_ok hrows

namespace Service

variable {r : ExportRequest}

theorem exportEvents_of_format_none (h : r.format = none) (sv : Service) :
    exportEvents r sv =
      (.error (.invalidFilter "format" "format must be one of csv, json or excel"), sv) := by
  unfold exportEvents
  rw [h]
  rfl

theorem exportEvents_run' {fmt : ExportFormat} (h : r.format = some fmt) (sv : Service) :
    (exportEvents r).run' sv =
      match (Repo.findRecent (r.toFilters.cond false) r.maxRecords sv.db).1 with
      | .error _ => .error (.exportFailed exportFailedText)
      | .ok [] => .error (.invalidFilter "filters" "no events match the export filters")
      | .ok docs => r.fileOf fmt sv.clock docs := by
  unfold exportEvents
  rw [h]
  rcases hR : Repo.findRecent (r.toFilters.cond false) r.maxRecords sv.db with ⟨res, db'⟩
  simp only [StateT.run', bind, StateT.bind, now, get, getThe, MonadStateOf.get, StateT.get, pure,
    StateT.pure, onDb, hR]
  rcases res with f | _ | ⟨d, docs⟩ <;> rfl

theorem exportEvents_run'_of_read {fmt : ExportFormat} (h : r.format = some fmt)
    (hcap : 0 < r.maxRecords) {sv : Service} {ys : List Record}
    (hread : (Repo.findRecent (r.toFilters.cond false) r.maxRecords sv.db).1 =
      .ok (ys.take r.maxRecords)) :
    (exportEvents r).run' sv = if ys = [] then
        .error (.invalidFilter "filters" "no events match the export filters")
      else r.fileOf fmt sv.clock (ys.take r.maxRecords) := by
  rw [exportEvents_run' h, hread]
  cases ys with
  | nil => simp
  | cons y ys =>
    obtain ⟨k, hk⟩ : ∃ k, r.maxRecords = k + 1 := ⟨r.maxRecords - 1, by omega⟩
    rw [hk, List.take_succ_cons]
    rfl

end Service

/-- The read of an export on a store whose work in flight only reads answers with the first
`cap` documents of the ordered matching documents, or fails with a planned fault. -/
theorem findRecent_eq {P : List (StoreMethod × FaultPlan) → Prop} (hP : Db.PlansKeep P)
    {db : Db} (h : db.OnlyReads P) {cond : Cond} {M ys : List Record}
    (hsel : db.coll.select cond = .ok M) (hord : Collection.order newestFirst M = .ok ys)
    {cap : Nat} (hcap : 0 < cap) :
    (Repo.findRecent cond cap db).1 = .ok (ys.take cap) ∨
      ∃ k msg, (Repo.findRecent cond cap db).1 = .error (.store k msg) := by
  have hfind := Collection.find_eq hsel hord 0 (Nat.pos_iff_ne_zero.1 hcap)
  rw [List.drop_zero] at hfind
  unfold Repo.findRecent
  rcases h.read_eq hP .find (fun c => c.find cond newestFirst 0 cap) with hr | hr
  · exact .inl (hr.trans hfind)
  · exact .inr hr

/-- An export writes the first `cap` matching documents in the strict newest-first order, or
fails with its generic failure; with no fault planned they are the listing's pages run
together. -/
theorem export_newest_first {v : Value} {r : ExportRequest} (hr : ExportRequest.parse v = .ok r)
    (sv : Service) :
    (r.format = none → Service.exportEvents r sv =
      (.error (.invalidFilter "format" "format must be one of csv, json or excel"), sv)) ∧
    ∀ fmt, r.format = some fmt → (∀ e ∈ sv.db.queue, e.WritesNothing) →
      (∀ d ∈ sv.db.coll.docs, ExportableEvent d) →
      sv.db.coll.docs.Pairwise (fun a b =>
        Value.storeEq (a.keyValue "_id") (b.keyValue "_id") = false) →
      let M := sv.db.coll.docs.filter (r.toFilters.cond false).selects
      let read := (Repo.findRecent (r.toFilters.cond false) r.maxRecords sv.db).1
      ∃ ys : List Record, ys.Perm M ∧ ys.Pairwise (fun a b => keysBefore newestFirst a b = true) ∧
        ((∃ k msg, read = .error (.store k msg) ∧
            (Service.exportEvents r).run' sv = .error (.exportFailed Service.exportFailedText)) ∨
          (read = .ok (ys.take r.maxRecords) ∧
            (Service.exportEvents r).run' sv = if M = [] then
              .error (.invalidFilter "filters" "no events match the export filters")
            else r.fileOf fmt sv.clock (ys.take r.maxRecords))) ∧
        (∀ res, (Service.exportEvents r).run' sv = .ok res →
          res.recordCount = min M.length r.maxRecords) ∧
        (sv.db.Quiet → read = .ok (ys.take r.maxRecords)) ∧
        (sv.db.Quiet → (∀ d ∈ sv.db.coll.docs, ∃ w, EventView.ofDocument d = .ok w) →
          sv.db.coll.docs.length < 2 ^ 53 →
          ∃ views, ys.mapM EventView.ofDocument = .ok views ∧ ∀ s, 0 < s → s < 2 ^ 53 →
            ∃ pages, r.listingPages s ((views.length + s - 1) / s) sv = .ok pages ∧
              pages.flatMap LogsPage.events = views) := by
  have hcap := (ExportRequest.parse_maxRecords hr).1
  refine ⟨fun h => Service.exportEvents_of_format_none h sv, fun fmt hfmt hqueue hdocs hid => ?_⟩
  intro M read
  have hM : ∀ d ∈ M, ExportableEvent d := fun d hd => hdocs d (List.mem_filter.1 hd).1
  have hsel : sv.db.coll.select (r.toFilters.cond false) = .ok M :=
    Collection.select_eq fun d hd => by
      obtain ⟨t, ht, -⟩ := (hdocs d hd).createdAt
      exact Filters.cond_holds_ok _ _ ht
  have hidM : M.Pairwise IdsApart := (hid.imp_of_mem fun ha hb hab =>
    (hdocs _ ha).idsApart (hdocs _ hb) hab).filter _
  obtain ⟨ys, hord, hperm, hstrict⟩ := order_newestFirst_strict hM hidM
  have hnil : M = [] ↔ ys = [] :=
    ⟨fun h => (h ▸ hperm : ys.Perm []).eq_nil, fun h => (h ▸ hperm.symm : M.Perm []).eq_nil⟩
  have hok : read = .ok (ys.take r.maxRecords) →
      (Service.exportEvents r).run' sv = if M = [] then
        .error (.invalidFilter "filters" "no events match the export filters")
      else r.fileOf fmt sv.clock (ys.take r.maxRecords) := fun hread => by
    rw [Service.exportEvents_run'_of_read hfmt hcap hread]
    by_cases hM0 : M = []
    · rw [if_pos hM0, if_pos (hnil.1 hM0)]
    · rw [if_neg hM0, if_neg (mt hnil.2 hM0)]
  refine ⟨ys, hperm, hstrict, ?_, ?_, ?_, ?_⟩
  · rcases findRecent_eq Db.plansKeep_true ⟨hqueue, trivial⟩ hsel hord hcap with hread | hread
    · exact .inr ⟨hread, hok hread⟩
    · obtain ⟨k, msg, hread⟩ := hread
      refine .inl ⟨k, msg, hread, ?_⟩
      rw [Service.exportEvents_run' hfmt, hread]
  · -- a written export counts the documents of its read
    intro res hres
    rcases findRecent_eq Db.plansKeep_true ⟨hqueue, trivial⟩ hsel hord hcap with hread | hread
    · rw [hok hread] at hres
      split at hres
      · cases hres
      · rw [ExportRequest.recordCount_fileOf hres, List.length_take, hperm.length_eq, Nat.min_comm]
    · obtain ⟨k, msg, hread⟩ := hread
      rw [Service.exportEvents_run' hfmt, hread] at hres
      cases hres
  · intro hquiet
    have hfind := Collection.find_eq hsel hord 0 (Nat.pos_iff_ne_zero.1 hcap)
    rw [List.drop_zero] at hfind
    exact (Db.read_of_quiet hquiet .find _).trans hfind
  · intro hquiet hview hsmall
    have hlisted : ∀ d ∈ sv.db.coll.docs, ListedEvent d := fun d hd =>
      (hdocs d hd).listed (hview d hd)
    obtain ⟨views, hviews⟩ := mapM_eq_ok_of_forall _ ys fun d hd =>
      hview d (List.mem_filter.1 (hperm.mem_iff.1 hd)).1
    refine ⟨views, hviews, fun s hs hs' => ?_⟩
    obtain ⟨pages, hpages, hflat⟩ := flatMap_of_mapM_eq_ok
      (fun i => (Service.query (r.listing s (i + 1)) false).run' sv) LogsPage.events
      (fun i => pageSlice views s (i + 1)) (List.range ((views.length + s - 1) / s)) fun i _ => by
        obtain ⟨p, hp, hevents, -⟩ := Service.query_page sv (r.listing s (i + 1)) false hquiet
          (fun d hd => (hlisted d hd).readable) hsmall hs hs' hord hviews
        exact ⟨p, hp, hevents⟩
    exact ⟨pages, hpages, hflat.trans (flatMap_pageSlice_all views hs)⟩

/-- The export of everything as CSV, on two events of one microsecond: the read answers with
both, strictly newest first (the later id first), and a written export counts both. -/
theorem export_newest_first_tied_events :
    ExportRequest.parse (.record [("format", .str "csv")]) = .ok { format := some .csv } ∧
      tiedEvents.db.Quiet ∧ (∀ d ∈ tiedEvents.db.coll.docs, ExportableEvent d) ∧
      tiedEvents.db.coll.docs.Pairwise (fun a b =>
        Value.storeEq (a.keyValue "_id") (b.keyValue "_id") = false) ∧
      ∃ ys : List Record, ys.Perm tiedEvents.db.coll.docs ∧
        ys.Pairwise (fun a b => keysBefore newestFirst a b = true) ∧
        (Repo.findRecent [] 10000 tiedEvents.db).1 = .ok ys ∧
        ∀ res, (Service.exportEvents { format := some .csv }).run' tiedEvents = .ok res →
          res.recordCount = 2 := by
  have hr : ExportRequest.parse (.record [("format", .str "csv")]) = .ok { format := some .csv } :=
    rfl
  have hquiet : tiedEvents.db.Quiet := ⟨(fun _ _ hp => by cases hp), rfl⟩
  have hid : ∀ d : Record, d.keyValue "_id" = (d.get? "_id").getD .null := fun d =>
    Record.keyValue_sortPath d (by simp [sortPaths])
  have hdocs : ∀ d ∈ tiedEvents.db.coll.docs, ExportableEvent d := by
    intro d hd
    simp only [tiedEvents, Collection.docs, List.map, List.mem_cons, List.not_mem_nil,
      or_false] at hd
    rcases hd with rfl | rfl
    all_goals exact ⟨⟨_, rfl, rfl⟩, by rw [hid]; trivial, by rw [hid]; trivial⟩
  have hdistinct : tiedEvents.db.coll.docs.Pairwise (fun a b =>
      Value.storeEq (a.keyValue "_id") (b.keyValue "_id") = false) := by
    simp only [tiedEvents, Collection.docs, List.map, List.pairwise_cons, List.mem_cons,
      List.not_mem_nil, or_false, forall_eq, false_implies, implies_true, List.Pairwise.nil,
      and_true, hid]
    decide +kernel
  obtain ⟨ys, hperm, hstrict, -, hcount, hread, -⟩ := (export_newest_first hr tiedEvents).2 .csv rfl
    (by simp [hquiet.idle]) hdocs hdistinct
  have hsel : tiedEvents.db.coll.docs.filter
      (({ format := some .csv } : ExportRequest).toFilters.cond false).selects =
      tiedEvents.db.coll.docs := by rfl
  have hlen : ys.length = 2 := by rw [hperm.length_eq, hsel]; rfl
  have htake : ys.take 10000 = ys := List.take_of_length_le (by omega)
  refine ⟨hr, hquiet, hdocs, hdistinct, ys, hsel ▸ hperm, hstrict, ?_, fun res hres => ?_⟩
  · rw [← htake]
    exact hread hquiet
  · rw [hcount res hres, hsel]
    rfl

def textDetailsEvent : Service where
  db := { coll := { entries := [(.objectId 1, [("_id", .objectId 1), ("level", .str "info"),
    ("action", .str "login"), ("message", .str "m"), ("details", .str "x"),
    ("createdAt", .stamp ⟨1717200000000000, none⟩)])], nextId := 2 } }
  clock := ⟨1718452800000000, none⟩

/-- The export of everything as CSV selects the one stored event, which does not flatten: the
export fails with the flattening's failure, neither writing a file nor failing generically. -/
theorem export_unflattenable_document_fails :
    ExportRequest.parse (.record [("format", .str "csv")]) = .ok { format := some .csv } ∧
      textDetailsEvent.db.coll.docs.filter
          (({ format := some .csv } : ExportRequest).toFilters.cond false).selects =
        textDetailsEvent.db.coll.docs ∧
      (Service.exportEvents { format := some .csv }).run' textDetailsEvent =
        .error (.noAttribute "str" "get") := by
  have hsel : textDetailsEvent.db.coll.docs.filter
      (({ format := some .csv } : ExportRequest).toFilters.cond false).selects =
      textDetailsEvent.db.coll.docs := by rfl
  refine ⟨rfl, hsel, ?_⟩
  have hdoc : ∀ d ∈ textDetailsEvent.db.coll.docs, ExportableEvent d := by
    intro d hd
    simp only [textDetailsEvent, Collection.docs, List.map, List.mem_singleton] at hd
    subst hd
    refine ⟨⟨_, rfl, rfl⟩, ?_, ?_⟩ <;> rw [Record.keyValue_sortPath _ (by simp [sortPaths])] <;>
      trivial
  obtain ⟨ys, hord, hperm, -⟩ := order_newestFirst_strict (M := textDetailsEvent.db.coll.docs) hdoc
    (by simp [textDetailsEvent, Collection.docs])
  have hys : ys = textDetailsEvent.db.coll.docs := List.perm_singleton.1 hperm
  subst hys
  have hselect : textDetailsEvent.db.coll.select
      (({ format := some .csv } : ExportRequest).toFilters.cond false) =
      .ok textDetailsEvent.db.coll.docs :=
    hsel ▸ Collection.select_eq fun d hd => by
      obtain ⟨t, ht, -⟩ := (hdoc d hd).createdAt
      exact Filters.cond_holds_ok _ _ ht
  have hfind := Collection.find_eq hselect hord 0 (by decide : (10000 : Nat) ≠ 0)
  rw [List.drop_zero] at hfind
  have hread : (Repo.findRecent (({ format := some .csv } : ExportRequest).toFilters.cond false)
      10000 textDetailsEvent.db).1 = .ok (textDetailsEvent.db.coll.docs.take 10000) :=
    (Db.read_of_quiet ⟨(fun _ _ hp => by cases hp), rfl⟩ .find _).trans hfind
  rw [Service.exportEvents_run'_of_read rfl (by decide) hread]
  rfl

end AuditTrail
