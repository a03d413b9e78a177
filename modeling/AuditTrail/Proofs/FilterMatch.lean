import AuditTrail.Proofs.ScalarFields
import AuditTrail.Request.Read

/-!
# What the filters select

On a document whose filtered fields are scalars or absent, the store condition the filters build
holds exactly when the document is admitted (`Filters.cond_holds_iff_admits`).
-/

namespace AuditTrail

def Record.textAt (d : Record) (path : String) : Option String :=
  ((Value.record d).atPath path).bind Value.textOf?

def filteredPaths : List String :=
  ["level", "action", "userId", "resource", "resourceId", "context.ip", selfAuditPath,
    "createdAt"] ++ searchPaths

def ActionFilter.actions : ActionFilter → List Action
  | .one a => [a]
  | .reservations => Action.reservations

theorem forall_mem_filterMap_id {α : Type} (os : List (Option α)) (P : α → Prop) :
    (∀ c ∈ os.filterMap id, P c) ↔ ∀ o ∈ os, ∀ c ∈ o, P c := by
  simp only [List.mem_filterMap, id_eq, forall_exists_index, and_imp]
  exact ⟨fun h o ho c hc => h c o ho hc, fun h c o ho hc => h o ho c hc⟩

namespace Filters

/-- What the filters ask of a document, one field per filter. -/
structure Admits (f : Filters) (excludeSelfAudit : Bool) (d : Record) : Prop where
  level : ∀ l ∈ f.level, d.textAt "level" = some l.text
  action : ∀ a ∈ f.action, ∃ b ∈ a.actions, d.textAt "action" = some b.text
  userId : ∀ u ∈ f.userId, d.textAt "userId" = some u
  resource : ∀ r ∈ f.resource, d.textAt "resource" = some r
  resourceId : ∀ r ∈ f.resourceId, d.textAt "resourceId" = some r
  ip : ∀ a ∈ f.ip, d.textAt "context.ip" = some a
  window : f.startDate.isSome ∨ f.endDate.isSome →
    ∃ t, (Value.record d).atPath "createdAt" = some (.stamp t) ∧
      (∀ s ∈ f.startDate, s.toStored.utc ≤ t.utc) ∧ (∀ e ∈ f.endDate, t.utc ≤ e.toStored.utc)
  search : f.action = none → ∀ s ∈ f.search, ∃ p ∈ searchPaths, ∃ t, d.textAt p = some t ∧
    Case.ContainsIgnoringCase t.toList (Blank.strip s).toList
  selfAudit : excludeSelfAudit = true → f.action = none →
    ∀ v, (Value.record d).atPath selfAuditPath = some v → Value.storeEq v (.bool true) = false

section
variable (d : Record)

theorem stored_eqText_holds_iff (path a : String)
    (h : (Value.record d).ScalarAt (path.splitOn ".")) :
    (Clause.field path [.eq (.str a)]).stored.holds (.record d) = .ok true ↔
      d.textAt path = some a := by
  have hs : (Clause.field path [.eq (.str a)]).stored = .field path [.eq (.str a)] := rfl
  have hx : ∀ y, (Value.record d).atPath path = some y → y.IsScalar :=
    fun y hy => Value.isScalar_of_pathValue h hy
  rw [hs, Clause.holds_field_of_scalarAt _ _ _ h (by simp)
    (by simpa using Test.blind_eq_str a), allM_singleton]
  simp [Test.holds, Test.eqHolds_str _ hx, Record.textAt]

theorem stored_actionClause_holds_iff (a : ActionFilter)
    (h : (Value.record d).ScalarAt ("action".splitOn ".")) :
    (actionClause a).stored.holds (.record d) = .ok true ↔
      ∃ b ∈ a.actions, d.textAt "action" = some b.text := by
  cases a with
  | one b =>
    simpa [actionClause, ActionFilter.actions] using stored_eqText_holds_iff d "action" b.text h
  | reservations =>
    have hvs : List.map Value.stored (Action.reservations.map (fun b => Value.str b.text)) =
        (Action.reservations.map Action.text).map .str := by
      simp only [List.map_map]
      rfl
    have hs : (actionClause .reservations).stored =
        .field "action" [.isIn ((Action.reservations.map Action.text).map .str)] := by
      simp [actionClause, Clause.stored, Test.stored, hvs]
    have hx : ∀ y, (Value.record d).atPath "action" = some y → y.IsScalar :=
      fun y hy => Value.isScalar_of_pathValue h hy
    rw [hs, Clause.holds_field_of_scalarAt _ _ _ h (by simp)
      (by simpa only [List.mem_singleton, forall_eq] using Test.blind_isIn_str _),
      allM_singleton]
    simp [Test.holds, Test.eqHolds_str _ hx, Record.textAt, ActionFilter.actions]

theorem stored_window_holds_iff (f : Filters)
    (h : (Value.record d).ScalarAt ("createdAt".splitOn ".")) :
    (∀ c ∈ f.windowClause, c.stored.holds (.record d) = .ok true) ↔
      (f.startDate.isSome ∨ f.endDate.isSome →
        ∃ t, (Value.record d).atPath "createdAt" = some (.stamp t) ∧
          (∀ s ∈ f.startDate, s.toStored.utc ≤ t.utc) ∧
          (∀ e ∈ f.endDate, t.utc ≤ e.toStored.utc)) := by
  have hx : ∀ y, (Value.record d).atPath "createdAt" = some y → y.IsScalar :=
    fun y hy => Value.isScalar_of_pathValue h hy
  have hlo := fun s => Test.holds_atLeast_stamp_eq_ok_true _ hx s
  have hhi := fun e => Test.holds_atMost_stamp_eq_ok_true _ hx e
  cases hs : f.startDate with
  | none =>
    cases he : f.endDate with
    | none => simp [windowClause, hs, he]
    | some e =>
      have hc : f.windowClause = some (.field "createdAt" [.atMost (.stamp e)]) := by
        simp [windowClause, hs, he]
      have hb : ∀ t ∈ [Test.atMost (.stamp e.toStored)], t.Blind := by
        simpa using Test.blind_atMost_stamp e.toStored
      rw [hc]
      simp only [Option.mem_def, Option.some.injEq, forall_eq']
      show (Clause.field "createdAt" [.atMost (.stamp e.toStored)]).holds (.record d) = .ok true
        ↔ _
      rw [Clause.holds_field_of_scalarAt _ _ _ h (by simp) hb, allM_singleton, hhi]
      simp
  | some s =>
    cases he : f.endDate with
    | none =>
      have hc : f.windowClause = some (.field "createdAt" [.atLeast (.stamp s)]) := by
        simp [windowClause, hs, he]
      have hb : ∀ t ∈ [Test.atLeast (.stamp s.toStored)], t.Blind := by
        simpa using Test.blind_atLeast_stamp s.toStored
      rw [hc]
      simp only [Option.mem_def, Option.some.injEq, forall_eq']
      show (Clause.field "createdAt" [.atLeast (.stamp s.toStored)]).holds (.record d) = .ok true
        ↔ _
      rw [Clause.holds_field_of_scalarAt _ _ _ h (by simp) hb, allM_singleton, hlo]
      simp
    | some e =>
      have hc : f.windowClause =
          some (.field "createdAt" [.atLeast (.stamp s), .atMost (.stamp e)]) := by
        simp [windowClause, hs, he]
      have hb : ∀ t ∈ [Test.atLeast (.stamp s.toStored), .atMost (.stamp e.toStored)],
          t.Blind := by
        simp [Test.blind_atLeast_stamp, Test.blind_atMost_stamp]
      rw [hc]
      simp only [Option.mem_def, Option.some.injEq, forall_eq']
      show (Clause.field "createdAt" [.atLeast (.stamp s.toStored), .atMost (.stamp e.toStored)]).holds
          (.record d) = .ok true ↔ _
      rw [Clause.holds_field_of_scalarAt _ _ _ h (by simp) hb, allM_eq_ok_true_iff]
      simp only [List.mem_cons, List.not_mem_nil, or_false, forall_eq_or_imp, forall_eq, hlo, hhi]
      constructor
      · rintro ⟨⟨t, ht, hst⟩, ⟨t', ht', het⟩⟩
        rw [ht, Option.some.injEq, Value.stamp.injEq] at ht'
        subst ht'
        simpa using ⟨t, ht, hst, het⟩
      · intro hw
        obtain ⟨t, ht, hst, het⟩ := hw (by simp)
        exact ⟨⟨t, ht, by simpa using hst⟩, ⟨t, ht, by simpa using het⟩⟩

theorem contains_field_holds_ok (p n : String) (h : (Value.record d).ScalarAt (p.splitOn ".")) :
    ∃ b, (Clause.field p [.contains n]).holds (.record d) = .ok b := by
  rw [Clause.holds_field_of_scalarAt _ _ _ h (by simp) (by simpa using Test.blind_contains n),
    allM_singleton]
  cases (Value.record d).atPath p with
  | none => exact ⟨false, rfl⟩
  | some y => exact ⟨_, rfl⟩

theorem contains_field_holds_iff (p n : String) (h : (Value.record d).ScalarAt (p.splitOn ".")) :
    (Clause.field p [.contains n]).holds (.record d) = .ok true ↔
      ∃ t, d.textAt p = some t ∧ Case.ContainsIgnoringCase t.toList n.toList := by
  have hx : ∀ y, (Value.record d).atPath p = some y → y.IsScalar :=
    fun y hy => Value.isScalar_of_pathValue h hy
  rw [Clause.holds_field_of_scalarAt _ _ _ h (by simp) (by simpa using Test.blind_contains n),
    allM_singleton, Test.holds_contains_eq_ok_true _ hx]
  simp only [Record.textAt, Case.containsFolded_iff]

theorem stored_search_holds_iff (f : Filters)
    (h : ∀ p ∈ searchPaths, (Value.record d).ScalarAt (p.splitOn ".")) :
    (∀ c ∈ f.searchClause, c.stored.holds (.record d) = .ok true) ↔
      (f.action = none → ∀ s ∈ f.search, ∃ p ∈ searchPaths, ∃ t, d.textAt p = some t ∧
        Case.ContainsIgnoringCase t.toList (Blank.strip s).toList) := by
  cases hs : f.search with
  | none => simp [searchClause, hs]
  | some s =>
    cases ha : f.action with
    | some a => simp [searchClause, hs, ha]
    | none =>
      have hc : f.searchClause =
          some (.either (searchPaths.map (.field · [.contains (Blank.strip s)]))) := by
        simp [searchClause, hs, ha]
      have hst : (Clause.either (searchPaths.map (.field · [.contains (Blank.strip s)]))).stored =
          .either (searchPaths.map (.field · [.contains (Blank.strip s)])) := by
        simp [Clause.stored, Clause.storedAll_eq_map, Test.stored]
      rw [hc]
      simp only [Option.mem_def, Option.some.injEq, forall_eq', hst, forall_const]
      show Clause.anyHolds (.record d) _ = .ok true ↔ _
      rw [Clause.anyHolds_eq_ok_true_iff]
      · simp only [List.mem_map, exists_exists_and_eq_and]
        constructor
        · rintro ⟨p, hp, hph⟩
          exact ⟨p, hp, (contains_field_holds_iff d p _ (h p hp)).mp hph⟩
        · rintro ⟨p, hp, hph⟩
          exact ⟨p, hp, (contains_field_holds_iff d p _ (h p hp)).mpr hph⟩
      · simp only [List.mem_map, forall_exists_index, and_imp, forall_apply_eq_imp_iff₂]
        exact fun p hp => contains_field_holds_ok d p _ (h p hp)

theorem stored_selfAudit_holds_iff (f : Filters) (excludeSelfAudit : Bool)
    (h : (Value.record d).ScalarAt (selfAuditPath.splitOn ".")) :
    (∀ c ∈ (if excludeSelfAudit && f.action.isNone then
        some (Clause.field selfAuditPath [.notEq (.bool true)]) else none),
        c.stored.holds (.record d) = .ok true) ↔
      (excludeSelfAudit = true → f.action = none →
        ∀ v, (Value.record d).atPath selfAuditPath = some v →
          Value.storeEq v (.bool true) = false) := by
  have hx : ∀ y, (Value.record d).atPath selfAuditPath = some y → y.IsScalar :=
    fun y hy => Value.isScalar_of_pathValue h hy
  by_cases hex : (excludeSelfAudit && f.action.isNone) = true
  · simp only [Bool.and_eq_true, Option.isNone_iff_eq_none] at hex
    obtain ⟨rfl, ha⟩ := hex
    simp only [ha, Option.isNone_none, Bool.and_self, ↓reduceIte, Option.mem_def,
      Option.some.injEq, forall_eq', forall_const]
    show (Clause.field selfAuditPath [.notEq (.bool true)]).holds (.record d) = .ok true ↔ _
    rw [Clause.holds_field_of_scalarAt _ _ _ h (by simp)
      (by simpa using Test.blind_notEq_true), allM_singleton,
      Test.holds_notEq_true_eq_ok_true _ hx]
  · rw [if_neg hex]
    simp only [Bool.and_eq_true, Option.isNone_iff_eq_none, not_and] at hex
    simp only [Option.mem_def, reduceCtorEq, false_imp_iff, implies_true, true_iff]
    intro hx' ha
    exact absurd ha (hex hx')

/-- On a document whose filtered fields are scalars or absent, the store condition built from
the filters holds exactly when the filters admit the document. -/
theorem cond_holds_iff_admits (f : Filters) (excludeSelfAudit : Bool)
    (hd : ∀ p ∈ filteredPaths, (Value.record d).ScalarAt (p.splitOn ".")) :
    Cond.holds (Clause.storedAll (f.cond excludeSelfAudit)) (.record d) = .ok true ↔
      f.Admits excludeSelfAudit d := by
  have hp : ∀ p ∈ filteredPaths, (Value.record d).ScalarAt (p.splitOn ".") := hd
  simp only [filteredPaths, searchPaths, selfAuditPath, List.cons_append, List.nil_append,
    List.mem_cons, List.not_mem_nil, or_false, forall_eq_or_imp, forall_eq] at hp
  obtain ⟨hlevel, haction, huser, hres, hresId, hip, hself, hcreated, hsearch⟩ := hp
  rw [Cond.holds_storedAll_eq_ok_true_iff, cond, forall_mem_filterMap_id]
  simp only [List.mem_cons, List.not_mem_nil, or_false, forall_eq_or_imp, forall_eq,
    Option.forall_mem_map]
  rw [stored_window_holds_iff d f hcreated, stored_search_holds_iff d f (by
      simpa [searchPaths] using hsearch),
    stored_selfAudit_holds_iff d f excludeSelfAudit hself]
  simp only [stored_eqText_holds_iff d _ _ hlevel, stored_actionClause_holds_iff d _ haction,
    stored_eqText_holds_iff d _ _ huser, stored_eqText_holds_iff d _ _ hres,
    stored_eqText_holds_iff d _ _ hresId, stored_eqText_holds_iff d _ _ hip]
  constructor
  · rintro ⟨h1, h2, h3, h4, h5, h6, h7, h8, h9⟩
    exact ⟨h1, h2, h3, h4, h5, h6, h7, h8, h9⟩
  · rintro ⟨h1, h2, h3, h4, h5, h6, h7, h8, h9⟩
    exact ⟨h1, h2, h3, h4, h5, h6, h7, h8, h9⟩

end

end Filters

namespace Filters

theorem splitOn_createdAt : "createdAt".splitOn "." = ["createdAt"] := by
  rw [String.splitOn, if_neg (by decide)]
  -- one step per character of the key, none of which is a dot
  repeat rw [String.splitOnAux, if_neg (by decide), if_neg (by decide)]
  rw [String.splitOnAux, if_pos (by decide)]
  rfl

theorem atPath_createdAt (d : Record) :
    (Value.record d).atPath "createdAt" = d.get? "createdAt" := by
  rw [Value.atPath_eq_pathValue, splitOn_createdAt, Value.pathValue_cons]
  change (Record.get? d "createdAt").bind (Value.pathValue []) = _
  cases Record.get? d "createdAt" <;> rfl

/-- The document the store keeps for an event of 2024-01-01T00:00:00 UTC. -/
theorem cond_holds_iff_admits_stored_event :
    (∀ p ∈ filteredPaths, (Value.record [("_id", .objectId 1),
        ("createdAt", .stamp ⟨1704067200000000, none⟩), ("level", .str "info")]).ScalarAt
        (p.splitOn ".")) ∧
    (Cond.holds (Clause.storedAll (({ startDate := some ⟨1704067200000500, none⟩ } : Filters).cond
        false)) (.record [("_id", .objectId 1), ("createdAt", .stamp ⟨1704067200000000, none⟩),
          ("level", .str "info")]) = .ok true ↔
      ({ startDate := some ⟨1704067200000500, none⟩ } : Filters).Admits false
        [("_id", .objectId 1), ("createdAt", .stamp ⟨1704067200000000, none⟩),
          ("level", .str "info")]) := by
  have hd : ∀ p ∈ filteredPaths, (Value.record [("_id", .objectId 1),
      ("createdAt", .stamp ⟨1704067200000000, none⟩), ("level", .str "info")]).ScalarAt
      (p.splitOn ".") := fun p _ =>
    Value.scalarAt_of_fields_scalar (by simp [Value.IsScalar]) _ (splitOn_ne_nil _ _)
  exact ⟨hd, cond_holds_iff_admits _ _ _ hd⟩

/-- A window start finer than a millisecond admits a stored stamp of its millisecond that lies
before it: the store cuts the bound to the millisecond before comparing. -/
theorem start_bound_admits_earlier_stamp :
    ∃ q, Listing.parse (.record [("startDate", .stamp ⟨1704067200000500, none⟩)]) = .ok q ∧
      Value.storedFields [("_id", .objectId 1), ("createdAt", .stamp ⟨1704067200000000, none⟩),
        ("level", .str "info")] =
        [("_id", .objectId 1), ("createdAt", .stamp ⟨1704067200000000, none⟩),
          ("level", .str "info")] ∧
      Cond.holds (Clause.storedAll (q.toFilters.cond false))
        (.record [("_id", .objectId 1), ("createdAt", .stamp ⟨1704067200000000, none⟩),
          ("level", .str "info")]) = .ok true ∧
      ∃ s t, q.startDate = some s ∧
        Record.get? [("_id", .objectId 1), ("createdAt", .stamp ⟨1704067200000000, none⟩),
          ("level", .str "info")] "createdAt" = some (.stamp t) ∧ t.utc < s.utc := by
  refine ⟨{ startDate := some ⟨1704067200000500, none⟩ }, rfl, rfl, ?_,
    ⟨1704067200000500, none⟩, ⟨1704067200000000, none⟩, rfl, rfl, by decide⟩
  have hcond : ({ startDate := some ⟨1704067200000500, none⟩ } : Filters).cond false =
      [.field "createdAt" [.atLeast (.stamp ⟨1704067200000500, none⟩)]] := rfl
  have hscalar : (Value.record [("_id", .objectId 1),
      ("createdAt", .stamp ⟨1704067200000000, none⟩), ("level", .str "info")]).ScalarAt
      ("createdAt".splitOn ".") :=
    Value.scalarAt_of_fields_scalar (by simp [Value.IsScalar]) _ (splitOn_ne_nil _ _)
  have hwin := stored_window_holds_iff _ ({ startDate := some ⟨1704067200000500, none⟩ } : Filters)
    hscalar
  rw [Cond.holds_storedAll_eq_ok_true_iff, hcond]
  simp only [windowClause, Option.map_some, Option.map_none, Option.toList,
    Option.mem_def, Option.some.injEq, forall_eq'] at hwin
  simp only [List.mem_singleton, forall_eq]
  refine hwin.mpr (fun _ => ⟨⟨1704067200000000, none⟩, ?_, by decide, by simp⟩)
  rw [atPath_createdAt]
  rfl

end Filters

end AuditTrail
