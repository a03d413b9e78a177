import AuditTrail.Proofs.ListingRequests
import AuditTrail.Proofs.ExportedEvents

/-!
# Reading export requests

`ExportRequest.parse` checks the raw `format` entry first, then reads the filters as a listing
does; a format of blanks passes the check and is then dropped with the empty entries.
-/

namespace AuditTrail

namespace ExportRequest

/-- Whether the raw parameters name a format that counts as set: the `format` entry found first
holds a value the language counts as true. -/
def formatGiven (fs : Record) : Bool := ((Record.get? fs "format").map Value.truthy).getD false

/-- What a read export request promises about the raw record it was read from. -/
structure ReadFrom (fs : Record) (r : ExportRequest) : Prop where
  filters : Filters.readFields (Form.dropEmpty fs) = .ok r.toFilters
  window : r.toFilters.checkWindow = .ok ()
  format_some : ∀ fmt, r.format = some fmt → ∃ k w,
    Form.lookup (Form.dropEmpty fs) "format" "format" = some (k, w) ∧
      (w = .str fmt.text ∨ ∃ e, w = .member e fmt.text)
  format_none : r.format = none ↔ ∀ w, ("format", w) ∈ fs → Form.isEmptyEntry w = true
  maxRecords_default :
    Form.lookup (Form.dropEmpty fs) "maxRecords" "max_records" = none → r.maxRecords = 10000
  maxRecords_given : ∀ k w, Form.lookup (Form.dropEmpty fs) "maxRecords" "max_records" =
    some (k, w) → ∃ m, Lax.int w = .ok m ∧ 1 ≤ m ∧ r.maxRecords = min m.toNat 50000

theorem parse_of_not_record {v : Value} (h : ∀ fs, v ≠ .record fs) :
    parse v = .error (.noAttribute v.typeName "get") := by
  cases v with
  | record fs => exact absurd rfl (h fs)
  | _ => rfl

theorem parse_record (fs : Record) :
    parse (.record fs) = if formatGiven fs then
      Filters.checkRawBounds (.record fs) >>= fun _ => (read (.record fs)).mapError Failure.ofIssue
    else .error (.invalidFilter "format" "format is required (csv, json or excel)") := rfl

theorem parse_of_formatGiven_false {fs : Record} (h : formatGiven fs = false) :
    parse (.record fs) = .error (.invalidFilter "format" "format is required (csv, json or excel)") := by
  rw [parse_record, h]
  rfl

theorem parse_of_formatGiven {fs : Record} (h : formatGiven fs = true) :
    parse (.record fs) =
      (Filters.checkRawBounds (.record fs) >>= fun _ => (read (.record fs)).mapError Failure.ofIssue) := by
  rw [parse_record, h]
  rfl

/-- An export request is read from a record: its filters, format and cap, and a window in
order. -/
theorem read_eq_ok {fs : Record} {r : ExportRequest} (h : read (.record fs) = .ok r) :
    Filters.readFields (Form.dropEmpty fs) = .ok r.toFilters ∧
      Form.optional (Form.dropEmpty fs) "format" "format" formatField = .ok r.format ∧
      Form.withDefault (Form.dropEmpty fs) "maxRecords" "max_records" defaultRecords
        maxRecordsField = .ok r.maxRecords ∧
      r.toFilters.checkWindow = .ok () := by
  unfold read at h
  obtain ⟨_, hr, h⟩ := bind_eq_ok.1 h
  cases hr
  obtain ⟨f, hf, h⟩ := bind_eq_ok.1 h
  obtain ⟨format, hformat, h⟩ := bind_eq_ok.1 h
  obtain ⟨cap, hcap, h⟩ := bind_eq_ok.1 h
  obtain ⟨u, hwin, h⟩ := bind_eq_ok.1 h
  cases h
  exact ⟨hf, hformat, hcap, hwin⟩

theorem read_of_readFields_error {fs : Record} {i : Issue}
    (h : Filters.readFields (Form.dropEmpty fs) = .error i) : read (.record fs) = .error i := by
  unfold read
  simp only [bind, Except.bind, pure, Except.pure, h]

/-! ### The format -/

theorem ofText?_eq_some_iff (s : String) (fmt : ExportFormat) :
    ExportFormat.ofText? s = some fmt ↔ s = fmt.text := by
  constructor
  · intro h
    unfold ExportFormat.ofText? at h
    have hp := List.find?_some h
    exact (beq_iff_eq.1 hp).symm
  · rintro rfl
    cases fmt <;> rfl

theorem formatField_eq_ok_iff (w : Value) (fmt : ExportFormat) :
    formatField w = .ok fmt ↔ w = .str fmt.text ∨ ∃ e, w = .member e fmt.text := by
  have hplain : Surrogate.occursIn fmt.text = false := by cases fmt <;> decide
  cases w with
  | str s =>
    have hstr : (Value.str s = .str fmt.text ∨ ∃ e, Value.str s = .member e fmt.text) ↔
        s = fmt.text := by simp
    rw [hstr]
    by_cases hs : Surrogate.occursIn s = true
    · -- a text with a lone surrogate is refused, and no format's text has one
      have hne : s ≠ fmt.text := fun h => by rw [h, hplain] at hs; cases hs
      simp [formatField, Lax.choice, hs, hne]
    · simp only [formatField, Lax.choice, hs, if_false, Bool.false_eq_true]
      rw [← ofText?_eq_some_iff]
      cases ExportFormat.ofText? s <;> simp
  | member e s =>
    simp only [formatField, Lax.choice, reduceCtorEq, Value.member.injEq, false_or]
    rw [exists_eq_left', ← ofText?_eq_some_iff]
    cases ExportFormat.ofText? s <;> simp
  | _ => simp [formatField, Lax.choice]

theorem get?_dropEmpty_eq_none_iff (fs : Record) (k : String) :
    Record.get? (Form.dropEmpty fs) k = none ↔ ∀ w, (k, w) ∈ fs → Form.isEmptyEntry w = true := by
  simp only [Record.get?, Form.dropEmpty, Option.map_eq_none_iff, List.find?_eq_none,
    List.mem_filter, Bool.not_eq_eq_eq_not, Bool.not_true, beq_iff_eq, and_imp, Prod.forall]
  constructor
  · intro h w hw
    by_contra hne
    exact h k w hw (by simpa using hne) rfl
  · intro h k' w hw hne hk
    subst hk
    simp [h w hw] at hne

theorem optional_format_eq_none_iff {fs : Record} {o : Option ExportFormat}
    (h : Form.optional (Form.dropEmpty fs) "format" "format" formatField = .ok o) :
    o = none ↔ ∀ w, ("format", w) ∈ fs → Form.isEmptyEntry w = true := by
  rw [← get?_dropEmpty_eq_none_iff]
  unfold Form.optional Form.lookup at h
  cases hget : Record.get? (Form.dropEmpty fs) "format" with
  | none =>
    simp only [hget, Option.map_none] at h
    simp [← Except.ok.inj h]
  | some w =>
    simp only [hget] at h
    -- the dropped record holds no null, so the entry found is read
    have hnull : w ≠ .null := by
      have hmem := List.mem_filter.1 (Record.mem_of_get? hget)
      intro hw
      simp [hw, Form.isEmptyEntry] at hmem
    cases hread : formatField w with
    | error e => cases w <;> simp_all
    | ok a =>
      have : o = some a := by cases w <;> simp_all
      simp [this]

theorem optional_format_eq_some {fs : Record} {fmt : ExportFormat}
    (h : Form.optional (Form.dropEmpty fs) "format" "format" formatField = .ok (some fmt)) :
    ∃ k w, Form.lookup (Form.dropEmpty fs) "format" "format" = some (k, w) ∧
      (w = .str fmt.text ∨ ∃ e, w = .member e fmt.text) := by
  obtain ⟨k, w, hl, hw⟩ := Form.optional_eq_some h
  exact ⟨k, w, hl, (formatField_eq_ok_iff w fmt).1 hw⟩

theorem read_of_format_refused {fs : Record} {w : Value} {f : Filters}
    (hf : Filters.readFields (Form.dropEmpty fs) = .ok f)
    (hl : Form.lookup (Form.dropEmpty fs) "format" "format" = some ("format", w))
    (hw : ∀ fmt, formatField w ≠ .ok fmt) :
    ∃ kind, read (.record fs) = .error ⟨["format"], kind⟩ := by
  have hnull : w ≠ .null := by
    unfold Form.lookup at hl
    cases hget : Record.get? (Form.dropEmpty fs) "format" with
    | none => simp [hget] at hl
    | some x =>
      simp only [hget, Option.some.injEq, Prod.mk.injEq, true_and] at hl
      subst hl
      have hmem := List.mem_filter.1 (Record.mem_of_get? hget)
      intro hx
      simp [hx, Form.isEmptyEntry] at hmem
  cases hread : formatField w with
  | ok a => exact absurd hread (hw a)
  | error kind =>
    refine ⟨kind, ?_⟩
    have hopt : Form.optional (Form.dropEmpty fs) "format" "format" formatField =
        .error ⟨["format"], kind⟩ := by
      unfold Form.optional
      rw [hl]
      cases w <;> simp_all
    unfold read
    simp only [bind, Except.bind, pure, Except.pure, hf, hopt]

/-! ### The record cap -/

theorem maxRecordsField_eq_ok {w : Value} {n : Nat} (h : maxRecordsField w = .ok n) :
    ∃ m, Lax.int w = .ok m ∧ 1 ≤ m ∧ n = min m.toNat 50000 := by
  unfold maxRecordsField Form.intAtLeast at h
  obtain ⟨m, hm, hn⟩ := bind_eq_ok.1 h
  obtain ⟨k, hk, hm⟩ := bind_eq_ok.1 hm
  by_cases hlt : k < 1
  · rw [if_pos hlt] at hm
    cases hm
  · rw [if_neg hlt] at hm
    have hkm : k = m := Except.ok.inj hm
    have hmn : min m.toNat maxRecordsCeiling = n := Except.ok.inj hn
    subst hkm
    exact ⟨k, hk, by omega, hmn.symm⟩

theorem readFrom_of_read {fs : Record} {r : ExportRequest} (h : read (.record fs) = .ok r) :
    ReadFrom fs r := by
  obtain ⟨hf, hformat, hcap, hwin⟩ := read_eq_ok h
  refine ⟨hf, hwin, fun fmt hfmt => ?_, optional_format_eq_none_iff hformat,
    fun hl => Form.withDefault_of_lookup_none hl hcap,
    fun k w hl => maxRecordsField_eq_ok (Form.withDefault_of_lookup_some hl hcap)⟩
  rw [hfmt] at hformat
  exact optional_format_eq_some hformat

end ExportRequest

/-- Reading export requests: refusals by the format check, then by the filters as a listing
refuses them; a request read has the listing's filters, a capped record count and a format
named by its text, unless every `format` entry is blank. -/
theorem export_parse_outcomes (v : Value) :
    ((∀ fs, v ≠ .record fs) → ExportRequest.parse v = .error (.noAttribute v.typeName "get")) ∧
    ∀ fs, v = .record fs →
      (ExportRequest.formatGiven fs = false → ExportRequest.parse v =
        .error (.invalidFilter "format" "format is required (csv, json or excel)")) ∧
      (ExportRequest.formatGiven fs = true → Filters.checkRawBounds v = .ok () →
        (∀ f, ExportRequest.parse v = .error f → ∃ i : Issue, f = Failure.ofIssue i) ∧
        (∀ f w, Filters.readFields (Form.dropEmpty fs) = .ok f →
          Form.lookup (Form.dropEmpty fs) "format" "format" = some ("format", w) →
          (∀ fmt : ExportFormat, w ≠ .str fmt.text ∧ ∀ e, w ≠ .member e fmt.text) →
          ∃ kind : Issue.Kind, ExportRequest.parse v =
            .error (.invalidFilter "format" ("format: " ++ kind.message))) ∧
        (∀ i, Filters.readFields (Form.dropEmpty fs) = .error i →
          ExportRequest.parse v = .error (Failure.ofIssue i) ∧
            Listing.parse v = .error (Failure.ofIssue i)) ∧
        ∀ r, ExportRequest.parse v = .ok r →
          ExportRequest.ReadFrom fs r ∧ (∀ q, Listing.parse v = .ok q → q.toFilters = r.toFilters) ∧
          (r.format = none → ∀ sv, Service.exportEvents r sv =
            (.error (.invalidFilter "format" "format must be one of csv, json or excel"), sv))) := by
  refine ⟨ExportRequest.parse_of_not_record, fun fs hv => ?_⟩
  subst hv
  refine ⟨ExportRequest.parse_of_formatGiven_false, fun hgiven hbounds => ?_⟩
  have hparse := ExportRequest.parse_of_formatGiven hgiven
  rw [hbounds] at hparse
  refine ⟨fun f hf => ?_, fun f w hf hl hw => ?_, fun i hi => ?_, fun r hr => ?_⟩
  · rw [hparse] at hf
    cases hread : ExportRequest.read (.record fs) with
    | error i =>
      rw [hread] at hf
      exact ⟨i, (Except.error.inj hf).symm⟩
    | ok r =>
      rw [hread] at hf
      cases hf
  · have hnot : ∀ fmt, ExportRequest.formatField w ≠ .ok fmt := fun fmt hok => by
      rcases (ExportRequest.formatField_eq_ok_iff w fmt).1 hok with h | ⟨e, h⟩
      · exact (hw fmt).1 h
      · exact (hw fmt).2 e h
    obtain ⟨kind, hread⟩ := ExportRequest.read_of_format_refused hf hl hnot
    refine ⟨kind, ?_⟩
    rw [hparse, hread]
    rfl
  · refine ⟨?_, ?_⟩
    · rw [hparse, ExportRequest.read_of_readFields_error hi]
      rfl
    · unfold Listing.parse
      rw [hbounds]
      simp only [Listing.read, bind, Except.bind, pure, Except.pure, hi, Except.mapError]
  · rw [hparse] at hr
    have hread : ExportRequest.read (.record fs) = .ok r := mapError_eq_ok.1 hr
    have hfrom := ExportRequest.readFrom_of_read hread
    refine ⟨hfrom, fun q hq => ?_, fun hnone sv => Service.exportEvents_of_format_none hnone sv⟩
    obtain ⟨_, hfs, hq, -⟩ := Listing.read_eq_ok (Listing.parse_eq_ok hq)
    cases hfs
    rw [hfrom.filters] at hq
    exact (Except.ok.inj hq).symm

/-- A format of blanks passes the check for a format and is then dropped with the other empty
entries: the request is read without a format. -/
theorem parse_blank_format_unsets_format :
    ∃ r, ExportRequest.parse (.record [("format", .str "  ")]) = .ok r ∧ r.format = none :=
  ⟨{}, rfl, rfl⟩

end AuditTrail
