import AuditTrail.Proofs.ReportOutcomes

/-!
# Reading listing requests

`Listing.parse` returns a well-formed request, with defaults for what is absent, null or blank,
refuses with the first issue the reading finds unless a window bound overflows, and ignores empty
entries.
-/

namespace AuditTrail

namespace Value

mutual
def isJson : Value → Bool
  | .null | .bool _ | .int _ | .float _ | .str _ => true
  | .list xs => itemsJson xs
  | .record fs => fieldsJson fs
  | _ => false
def itemsJson : List Value → Bool
  | [] => true
  | x :: xs => isJson x && itemsJson xs
def fieldsJson : List (String × Value) → Bool
  | [] => true
  | (_, x) :: fs => isJson x && fieldsJson fs
end

theorem isJson_of_mem_fields {fs : List (String × Value)} (h : fieldsJson fs = true)
    {p : String × Value} (hp : p ∈ fs) : p.2.isJson = true := by
  induction fs with
  | nil => cases hp
  | cons q fs ih =>
    obtain ⟨k, x⟩ := q
    simp only [fieldsJson, Bool.and_eq_true] at h
    rcases List.mem_cons.1 hp with rfl | hp
    · exact h.1
    · exact ih h.2 hp

end Value

namespace Form

theorem lookup_mem {r : Record} {wire other k : String} {v : Value}
    (h : lookup r wire other = some (k, v)) : (k, v) ∈ r := by
  unfold lookup at h
  cases hw : r.get? wire with
  | some x =>
    rw [hw] at h
    cases h
    exact Record.mem_of_get? hw
  | none =>
    rw [hw] at h
    obtain ⟨x, hx, hkx⟩ := Option.map_eq_some_iff.1 h
    cases hkx
    exact Record.mem_of_get? hx

theorem withDefault_of_lookup_none {α : Type} {r : Record} {wire other : String} {dflt a : α}
    {read : Value → Except Issue.Kind α} (hl : lookup r wire other = none)
    (h : withDefault r wire other dflt read = .ok a) : a = dflt := by
  unfold withDefault at h
  rw [hl] at h
  exact (Except.ok.inj h).symm

theorem withDefault_of_lookup_some {α : Type} {r : Record} {wire other k : String} {v : Value}
    {dflt a : α} {read : Value → Except Issue.Kind α} (hl : lookup r wire other = some (k, v))
    (h : withDefault r wire other dflt read = .ok a) : read v = .ok a := by
  unfold withDefault at h
  rw [hl] at h
  dsimp only at h
  split at h
  · rename_i b hb
    cases h
    exact hb
  · cases h

@[simp] theorem dropEmpty_append (r r' : Record) :
    dropEmpty (r ++ r') = dropEmpty r ++ dropEmpty r' := List.filter_append ..

@[simp] theorem dropEmpty_dropEmpty (r : Record) : dropEmpty (dropEmpty r) = dropEmpty r := by
  simp [dropEmpty, List.filter_filter]

theorem dropEmpty_eq_nil {r : Record} (h : ∀ p ∈ r, isEmptyEntry p.2 = true) :
    dropEmpty r = [] := List.filter_eq_nil_iff.2 fun p hp => by simp [h p hp]

/-- The entries a parse reads: not empty, and plain JSON when the request is. -/
def Plain (r : Record) : Prop := ∀ p ∈ r, isEmptyEntry p.2 = false ∧ p.2.isJson = true

theorem plain_dropEmpty {fs : Record} (h : Value.fieldsJson fs = true) : Plain (dropEmpty fs) :=
  fun p hp => by
    obtain ⟨hmem, he⟩ := List.mem_filter.1 hp
    exact ⟨by simpa using he, Value.isJson_of_mem_fields h hmem⟩

theorem optional_eq_some {α : Type} {r : Record} {wire other : String}
    {read : Value → Except Issue.Kind α} {a : α} (h : optional r wire other read = .ok (some a)) :
    ∃ k v, lookup r wire other = some (k, v) ∧ read v = .ok a := by
  unfold optional at h
  cases hl : lookup r wire other with
  | none => rw [hl] at h; cases h
  | some p =>
    obtain ⟨k, v⟩ := p
    rw [hl] at h
    refine ⟨k, v, rfl, ?_⟩
    cases hb : read v with
    | error e => cases v <;> simp_all
    | ok b => cases v <;> simp_all

theorem optional_str_nonblank {r : Record} (hr : Plain r) {wire other s : String}
    (h : optional r wire other Lax.str = .ok (some s)) : Blank.isBlankText s = false := by
  obtain ⟨k, v, hl, hv⟩ := optional_eq_some h
  obtain ⟨hne, hjson⟩ := hr _ (lookup_mem hl)
  -- the entry is a text: a member of an enumeration is not plain JSON
  cases v <;> simp_all [Lax.str, isEmptyEntry, Value.isJson]

theorem optional_bound_naive {r : Record} {wire other : String} {t : Stamp}
    (h : optional r wire other Filters.boundField = .ok (some t)) : t.offset = none := by
  obtain ⟨k, v, -, hv⟩ := optional_eq_some h
  unfold Filters.boundField at hv
  cases hr : StampReading.read v with
  | error e => rw [hr] at hv; cases hv
  | ok w =>
    rw [hr] at hv
    simp only [Except.map, Except.ok.injEq] at hv
    subst hv
    rfl

end Form

namespace Filters

theorem readFields_spec {r : Record} (hr : Form.Plain r) {f : Filters} (h : readFields r = .ok f) :
    (∀ o ∈ [f.userId, f.resource, f.resourceId, f.ip, f.search], ∀ s ∈ o,
      Blank.isBlankText s = false) ∧
    (∀ t ∈ f.startDate, t.offset = none) ∧ (∀ t ∈ f.endDate, t.offset = none) := by
  unfold readFields at h
  obtain ⟨_, -, h⟩ := bind_eq_ok.1 h
  obtain ⟨_, -, h⟩ := bind_eq_ok.1 h
  obtain ⟨userId, huser, h⟩ := bind_eq_ok.1 h
  obtain ⟨resource, hres, h⟩ := bind_eq_ok.1 h
  obtain ⟨resourceId, hresId, h⟩ := bind_eq_ok.1 h
  obtain ⟨ip, hip, h⟩ := bind_eq_ok.1 h
  obtain ⟨start, hstart, h⟩ := bind_eq_ok.1 h
  obtain ⟨stop, hstop, h⟩ := bind_eq_ok.1 h
  obtain ⟨search, hsearch, h⟩ := bind_eq_ok.1 h
  cases h
  have htext : ∀ {wire other : String} {o : Option String},
      Form.optional r wire other Lax.str = .ok o → ∀ s ∈ o, Blank.isBlankText s = false := by
    rintro wire other o ho s rfl
    exact Form.optional_str_nonblank hr ho
  refine ⟨?_, ?_, ?_⟩
  rotate_left
  · rintro t ht
    rw [Option.mem_def] at ht
    subst ht
    exact Form.optional_bound_naive hstart
  · rintro t ht
    rw [Option.mem_def] at ht
    subst ht
    exact Form.optional_bound_naive hstop
  simp only [List.mem_cons, List.not_mem_nil, or_false]
  rintro o (rfl | rfl | rfl | rfl | rfl)
  exacts [htext huser, htext hres, htext hresId, htext hip, htext hsearch]

theorem checkWindow_ordered {f : Filters} (h : f.checkWindow = .ok ()) :
    ∀ s ∈ f.startDate, ∀ e ∈ f.endDate, s.wall ≤ e.wall := by
  intro s hs e he
  rw [Option.mem_def] at hs he
  unfold checkWindow at h
  rw [hs, he] at h
  dsimp only at h
  split_ifs at h with hlt
  exact Int.not_lt.1 hlt

theorem checkRawBounds_eq_error {v : Value} {f : Failure} (h : checkRawBounds v = .error f) :
    f = .overflow "date value out of range" := by
  unfold checkRawBounds at h
  split at h
  · unfold checkBounds at h
    split_ifs at h
    exact (Except.error.inj h).symm
  · cases h

end Filters

namespace Listing

/-- What a read listing request promises. Its page is at least one and its page size one to
`maxPageSize`; each text filter that is set has a character outside the blank class; the window
bounds are naive (UTC) readings, the end not before the start. -/
structure WellFormed (q : Listing) : Prop where
  page_pos : 1 ≤ q.page
  pageSize_pos : 1 ≤ q.pageSize
  pageSize_le : q.pageSize ≤ maxPageSize
  texts : ∀ o ∈ [q.userId, q.resource, q.resourceId, q.ip, q.search], ∀ s ∈ o,
    Blank.isBlankText s = false
  start_naive : ∀ t ∈ q.startDate, t.offset = none
  end_naive : ∀ t ∈ q.endDate, t.offset = none
  ordered : ∀ s ∈ q.startDate, ∀ e ∈ q.endDate, s.wall ≤ e.wall

theorem read_eq_ok {v : Value} {q : Listing} (h : read v = .ok q) :
    ∃ fs, v = .record fs ∧ Filters.readFields (Form.dropEmpty fs) = .ok q.toFilters ∧
      q.toFilters.checkWindow = .ok () ∧
      Form.withDefault (Form.dropEmpty fs) "sortBy" "sort_by" .createdAt sortByField =
        .ok q.sortBy ∧
      Form.withDefault (Form.dropEmpty fs) "sortOrder" "sort_order" .desc sortOrderField =
        .ok q.sortOrder ∧
      Form.withDefault (Form.dropEmpty fs) "page" "page" 1
        (fun v => (Form.intAtLeast 1 v).map Int.toNat) = .ok q.page ∧
      Form.withDefault (Form.dropEmpty fs) "pageSize" "page_size" 50 pageSizeField =
        .ok q.pageSize := by
  unfold read at h
  split at h
  · rename_i fs
    obtain ⟨r, hr, h⟩ := bind_eq_ok.1 h
    cases hr
    obtain ⟨f, hf, h⟩ := bind_eq_ok.1 h
    obtain ⟨sortBy, hby, h⟩ := bind_eq_ok.1 h
    obtain ⟨sortOrder, horder, h⟩ := bind_eq_ok.1 h
    obtain ⟨page, hpage, h⟩ := bind_eq_ok.1 h
    obtain ⟨size, hsize, h⟩ := bind_eq_ok.1 h
    obtain ⟨u, hwin, h⟩ := bind_eq_ok.1 h
    cases h
    exact ⟨fs, rfl, hf, hwin, hby, horder, hpage, hsize⟩
  · cases h

theorem page_pos {r : Record} {n : Nat}
    (h : Form.withDefault r "page" "page" 1 (fun v => (Form.intAtLeast 1 v).map Int.toNat) =
      .ok n) : 1 ≤ n := by
  rcases Form.withDefault_eq_ok h with rfl | ⟨w, hw⟩
  · exact le_refl 1
  · unfold Form.intAtLeast at hw
    cases hk : Lax.int w with
    | error e => simp [hk, bind, Except.bind, Except.map] at hw
    | ok k =>
      by_cases hlt : k < 1
      · simp [hk, hlt, bind, Except.bind, Except.map, throw, throwThe, MonadExceptOf.throw] at hw
      · simp only [hk, hlt, bind, Except.bind, if_false, pure, Except.pure, Except.map,
          Except.ok.injEq] at hw
        omega

theorem read_wellFormed {v : Value} (hv : v.isJson = true) {q : Listing} (h : read v = .ok q) :
    q.WellFormed := by
  obtain ⟨fs, rfl, hf, hwin, -, -, hpage, hsize⟩ := read_eq_ok h
  obtain ⟨htexts, hstart, hend⟩ :=
    Filters.readFields_spec (Form.plain_dropEmpty (by simpa [Value.isJson] using hv)) hf
  have hbounds : 0 < q.pageSize ∧ q.pageSize ≤ maxPageSize := by
    rcases Form.withDefault_eq_ok hsize with hd | ⟨w, hw⟩
    · rw [hd]
      exact ⟨by decide, by decide⟩
    · exact pageSizeField_bounds hw
  exact ⟨page_pos hpage, hbounds.1, hbounds.2, htexts, hstart, hend,
    Filters.checkWindow_ordered hwin⟩

theorem sortOrderField_str (s : String) (o : SortOrder) :
    sortOrderField (.str s) = .ok o ↔ String.ofList (s.toList.map Char.toLower) = o.text := by
  constructor
  · intro h
    simp only [sortOrderField, Lax.choice] at h
    split_ifs at h
    cases hr : SortOrder.ofText? (String.ofList (s.toList.map Char.toLower)) with
    | none => simp [hr] at h
    | some a =>
      simp only [hr, Except.ok.injEq] at h
      subst h
      have hfind := List.find?_some (show SortOrder.all.find? (·.text == _) = some a from hr)
      exact (beq_iff_eq.1 hfind).symm
  · intro h
    cases o <;> simp [sortOrderField, Lax.choice, h, SortOrder.ofText?, SortOrder.all,
      SortOrder.text, Surrogate.occursIn, Surrogate.isStandIn, Surrogate.unit?,
      Surrogate.isUnit, Surrogate.offset]

/-- Listing parameters that are absent, null or blank take their defaults, and a text
direction is read by its lower-case form. -/
theorem read_defaults {fs : Record} {q : Listing} (h : read (.record fs) = .ok q) :
    (Form.lookup (Form.dropEmpty fs) "pageSize" "page_size" = none → q.pageSize = 50) ∧
    (Form.lookup (Form.dropEmpty fs) "page" "page" = none → q.page = 1) ∧
    (Form.lookup (Form.dropEmpty fs) "sortBy" "sort_by" = none → q.sortBy = .createdAt) ∧
    (Form.lookup (Form.dropEmpty fs) "sortOrder" "sort_order" = none → q.sortOrder = .desc) ∧
    (∀ k s, Form.lookup (Form.dropEmpty fs) "sortOrder" "sort_order" = some (k, .str s) →
      String.ofList (s.toList.map Char.toLower) = q.sortOrder.text) := by
  obtain ⟨_, hv, -, -, hby, horder, hpage, hsize⟩ := read_eq_ok h
  cases hv
  exact ⟨fun hl => Form.withDefault_of_lookup_none hl hsize,
    fun hl => Form.withDefault_of_lookup_none hl hpage,
    fun hl => Form.withDefault_of_lookup_none hl hby,
    fun hl => Form.withDefault_of_lookup_none hl horder,
    fun _ _ hl => (sortOrderField_str _ _).1 (Form.withDefault_of_lookup_some hl horder)⟩

/-! ### Outcomes of a parse -/

theorem parse_eq_ok {v : Value} {q : Listing} (h : parse v = .ok q) : read v = .ok q := by
  unfold parse at h
  obtain ⟨u, -, hread⟩ := bind_eq_ok.1 h
  exact mapError_eq_ok.1 hread

theorem parse_eq_error {v : Value} {f : Failure} (h : parse v = .error f) :
    Filters.checkRawBounds v = .error f ∨
      Filters.checkRawBounds v = .ok () ∧ ∃ i, read v = .error i ∧ f = Failure.ofIssue i := by
  unfold parse at h
  cases hb : Filters.checkRawBounds v with
  | error e =>
    rw [hb] at h
    exact .inl (congrArg Except.error (Except.error.inj h))
  | ok u =>
    rw [hb] at h
    cases hr : read v with
    | error i =>
      rw [hr] at h
      exact .inr ⟨rfl, i, rfl, (Except.error.inj h).symm⟩
    | ok q =>
      rw [hr] at h
      cases h

theorem parse_of_checkRawBounds_error {v : Value} {f : Failure}
    (h : Filters.checkRawBounds v = .error f) :
    parse v = .error (.overflow "date value out of range") := by
  rw [← Filters.checkRawBounds_eq_error h]
  unfold parse
  rw [h]
  rfl

theorem parse_dropEmpty (fs : Record) : parse (.record fs) = parse (.record (Form.dropEmpty fs)) := by
  simp only [parse, Filters.checkRawBounds, read, Form.dropEmpty_dropEmpty]

/-- Adding entries that are null or blank, anywhere, changes nothing. -/
theorem parse_append_empty (pre extra post : Record) (h : ∀ p ∈ extra, Form.isEmptyEntry p.2 = true) :
    parse (.record (pre ++ extra ++ post)) = parse (.record (pre ++ post)) := by
  rw [parse_dropEmpty, parse_dropEmpty (pre ++ post)]
  simp only [Form.dropEmpty_append, Form.dropEmpty_eq_nil h, List.append_nil]

end Listing

/-- Reading a listing request from plain JSON: a well-formed request with its defaults, or the
first issue of the reading unless a window bound overflows; empty entries change nothing. -/
theorem listing_parse_outcomes (v : Value) (hv : v.isJson = true) :
    (∀ q, Listing.parse v = .ok q → q.WellFormed ∧ ∀ fs, v = .record fs →
      (Form.lookup (Form.dropEmpty fs) "pageSize" "page_size" = none → q.pageSize = 50) ∧
      (Form.lookup (Form.dropEmpty fs) "page" "page" = none → q.page = 1) ∧
      (Form.lookup (Form.dropEmpty fs) "sortBy" "sort_by" = none → q.sortBy = .createdAt) ∧
      (Form.lookup (Form.dropEmpty fs) "sortOrder" "sort_order" = none → q.sortOrder = .desc) ∧
      (∀ k s, Form.lookup (Form.dropEmpty fs) "sortOrder" "sort_order" = some (k, .str s) →
        String.ofList (s.toList.map Char.toLower) = q.sortOrder.text)) ∧
    ((∀ f, Listing.parse v = .error f → ∃ i : Issue, Listing.read v = .error i ∧
        f = .invalidFilter (i.loc.head?.getD "endDate")
          (i.loc.head?.getD "endDate" ++ ": " ++ i.message)) ↔
      Filters.checkRawBounds v = .ok ()) ∧
    (Filters.checkRawBounds v ≠ .ok () →
      Listing.parse v = .error (.overflow "date value out of range")) ∧
    ∀ pre extra post, (∀ p ∈ extra, Form.isEmptyEntry p.2 = true) →
      Listing.parse (.record (pre ++ extra ++ post)) = Listing.parse (.record (pre ++ post)) := by
  refine ⟨fun q h => ?_, ⟨fun hrefuse => ?_, fun hb f h => ?_⟩, fun hb => ?_,
    Listing.parse_append_empty⟩
  · have hread := Listing.parse_eq_ok h
    refine ⟨Listing.read_wellFormed hv hread, fun fs hfs => ?_⟩
    subst hfs
    exact Listing.read_defaults hread
  · -- an overflowing bound fails the parse with the overflow, which names no field
    cases hb : Filters.checkRawBounds v with
    | ok u => rfl
    | error e =>
      obtain ⟨i, -, hi⟩ := hrefuse _ (Listing.parse_of_checkRawBounds_error hb)
      cases hi
  · rcases Listing.parse_eq_error h with hb' | ⟨-, i, hread, rfl⟩
    · rw [hb] at hb'
      cases hb'
    · exact ⟨i, hread, rfl⟩
  · cases hb' : Filters.checkRawBounds v with
    | ok u => exact absurd hb' hb
    | error e => exact Listing.parse_of_checkRawBounds_error hb'

/-- A plain request with a blank search and an upper-case direction reads as a well-formed
listing with the default page size, no search and the ascending direction. -/
theorem listing_parse_blank_search :
    ∃ q, Listing.parse (.record [("search", .str "  "), ("sortOrder", .str "ASC")]) = .ok q ∧
      q.WellFormed ∧ q.pageSize = 50 ∧ q.search = none ∧ q.sortOrder = .asc := by
  obtain ⟨q, hq⟩ : ∃ q,
      Listing.parse (.record [("search", .str "  "), ("sortOrder", .str "ASC")]) = .ok q :=
    ⟨_, rfl⟩
  obtain ⟨hwf, hdefaults⟩ := (listing_parse_outcomes _ (by decide)).1 q hq
  obtain ⟨hsize, -, -, -, hcase⟩ := hdefaults _ rfl
  have horder := hcase "sortOrder" "ASC" rfl
  refine ⟨q, hq, hwf, hsize rfl, ?_, ?_⟩
  · have hread := Listing.parse_eq_ok hq
    cases hread
    rfl
  · cases hs : q.sortOrder with
    | asc => rfl
    | desc =>
      rw [hs] at horder
      exact absurd horder (by decide)

/-- A start with an offset that puts its UTC reading before the first year fails the parse with
an overflow, not with an invalid filter. -/
theorem aware_start_before_first_year_overflows :
    Listing.parse (.record [("startDate", .str "0001-01-01T00:00:00+01:00")]) =
      .error (.overflow "date value out of range") := by
  rfl

end AuditTrail
