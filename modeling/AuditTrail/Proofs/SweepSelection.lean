import AuditTrail.Proofs.ReportFrames

/-!
# The documents a retention sweep deletes

On documents with scalar creation fields the sweep deletes exactly those created before the
cutoff (`Collection.sweep`), and every window starting at or after it selects as before.
-/

namespace AuditTrail

open Collection

theorem filterM_filter_of_rejects {α ε : Type} (p : α → Except ε Bool) (q : α → Bool)
    (xs : List α) (h : ∀ x ∈ xs, q x = false → p x = .ok false) :
    (xs.filter q).filterM p = xs.filterM p := by
  -- the accumulator is the same on both sides, whatever it holds
  have aux : ∀ (ys acc : List α), (∀ x ∈ ys, q x = false → p x = .ok false) →
      List.filterAuxM p (ys.filter q) acc = List.filterAuxM p ys acc := by
    intro ys
    induction ys with
    | nil => intro acc _; rfl
    | cons y ys ih =>
      intro acc hys
      have hrest : ∀ x ∈ ys, q x = false → p x = .ok false := fun x hx => hys x (by simp [hx])
      cases hq : q y with
      | true =>
        simp only [List.filter_cons, hq, if_true, List.filterAuxM]
        congr 1
        funext b
        exact ih _ hrest
      | false =>
        simp only [List.filter_cons, hq, Bool.false_eq_true, if_false, List.filterAuxM,
          hys y List.mem_cons_self hq]
        exact ih acc hrest
  simp only [List.filterM, aux xs [] h]

namespace Record

/-- A document whose creation field the store compares as one value: absent, or a scalar that
is not a decimal (a list would be searched item by item, and the store refuses to order a
decimal). -/
def CreatedScalar (d : Record) : Prop :=
  ∀ v, d.get? "createdAt" = some v → v.IsScalar ∧ ∀ t, v ≠ .decimal t

theorem createdScalar_of_stamp {d : Record} {u : Stamp}
    (hu : d.get? "createdAt" = some (.stamp u)) : d.CreatedScalar := fun v hv => by
  rw [hu, Option.some.injEq] at hv
  subst hv
  exact ⟨trivial, fun _ h => by cases h⟩

theorem CreatedScalar.holds_below {d : Record} (hd : d.CreatedScalar) (s : Stamp) :
    Cond.holds (Clause.storedAll [.field "createdAt" [.below (.stamp s)]]) (.record d) =
      .ok (d.createdBefore s) := by
  show [Clause.field "createdAt" [.below (.stamp s.toStored)]].allM (·.holds (.record d)) = _
  rw [allM_singleton]
  show Test.allHold [.below (.stamp s.toStored)]
    ((Value.record d).reach ("createdAt".splitOn ".")) = _
  rw [Filters.splitOn_createdAt]
  change Test.allHold [_] [d.get? "createdAt"] = _
  rw [Test.allHold_singleton, allM_singleton]
  cases h : d.get? "createdAt" with
  | none => simp [Test.holds, Test.cmpHolds, createdBefore, createdStamp?, h]
  | some v =>
    obtain ⟨hs, hdec⟩ := hd v h
    cases v with
    | stamp t => rw [Test.holds_below_stamp, createdBefore_of_stamp h]
    | decimal x => exact absurd rfl (hdec x)
    | list _ => exact hs.elim
    | tuple _ => exact hs.elim
    | record _ => exact hs.elim
    | _ => simp [Test.holds, Test.cmpHolds, Value.candidates, Value.sortRank, Value.rank, bind,
        Except.bind, pure, Except.pure, createdBefore, createdStamp?, h]

theorem stamp_of_createdBefore {d : Record} {s : Stamp} (h : d.createdBefore s = true) :
    ∃ u, d.get? "createdAt" = some (.stamp u) := by
  unfold createdBefore at h
  cases ht : createdStamp? d with
  | none => rw [ht] at h; cases h
  | some t => exact ⟨t, eq_of_createdStamp? ht⟩

theorem createdBefore_eq_false_of_createdSince {d : Record} {s cutoff : Stamp}
    (hs : d.createdSince s = true) (hle : cutoff.toStored.utc ≤ s.toStored.utc) :
    d.createdBefore cutoff = false := by
  unfold createdSince at hs
  unfold createdBefore
  cases h : createdStamp? d with
  | none => rfl
  | some t =>
    rw [h] at hs
    simp only [decide_eq_true_eq] at hs
    simp only [decide_eq_false_iff_not, Int.not_lt]
    omega

theorem createdBefore_mono {d : Record} {s t : Stamp} (hle : s.toStored.utc ≤ t.toStored.utc)
    (h : d.createdBefore s = true) : d.createdBefore t = true := by
  unfold createdBefore at h ⊢
  cases hu : createdStamp? d with
  | none => rw [hu] at h; cases h
  | some u =>
    rw [hu] at h
    simp only [decide_eq_true_eq] at h ⊢
    omega

end Record

theorem Stamp.toStored_utc_le {s t : Stamp} (hs : s.offset = none) (ht : t.offset = none)
    (h : s.wall ≤ t.wall) : s.toStored.utc ≤ t.toStored.utc := by
  rw [Stamp.toStored_of_naive hs, Stamp.toStored_of_naive ht]
  simp only [Stamp.utc, Stamp.truncMillis, hs, ht, Option.getD_none]
  omega

theorem Cond.holds_eq_false_of_createdBefore {cond : Cond} {s cutoff : Stamp} {rest : List Test}
    (hmem : Clause.field "createdAt" (.atLeast (.stamp s) :: rest) ∈ cond)
    (hle : cutoff.toStored.utc ≤ s.toStored.utc) {d : Record}
    (hdec : ∃ b, Cond.holds (Clause.storedAll cond) (.record d) = .ok b)
    (hbefore : d.createdBefore cutoff = true) :
    Cond.holds (Clause.storedAll cond) (.record d) = .ok false := by
  obtain ⟨b, hb⟩ := hdec
  cases b with
  | false => exact hb
  | true =>
    exfalso
    obtain ⟨u, hu⟩ := Record.stamp_of_createdBefore hbefore
    rw [Cond.holds, Clause.storedAll_eq_map, allM_eq_ok_true_iff] at hb
    have hcl := hb _ (List.mem_map_of_mem hmem)
    simp only [Clause.stored, List.map_cons] at hcl
    rw [Clause.holds_createdAt hu, allM_eq_ok_true_iff] at hcl
    have hs := hcl _ List.mem_cons_self
    simp only [Test.stored, Value.stored, Test.holds_atLeast_stamp, Except.ok.injEq,
      decide_eq_true_eq] at hs
    have hsince : d.createdSince s = true := by
      rw [Record.createdSince_of_stamp hu]
      exact decide_eq_true hs
    rw [Record.createdBefore_eq_false_of_createdSince hsince hle] at hbefore
    cases hbefore

namespace Collection

/-- The collection without the documents created before `cutoff` as the store keeps it. -/
def sweep (c : Collection) (cutoff : Stamp) : Collection :=
  { c with entries := c.entries.filter fun e => !e.2.createdBefore cutoff }

variable {c : Collection} {cutoff : Stamp}

theorem docs_sweep : (c.sweep cutoff).docs = c.docs.filter fun d => !d.createdBefore cutoff := by
  simp only [sweep, docs, List.filter_map]
  rfl

theorem sweep_eq_self (h : ∀ d ∈ c.docs, d.createdBefore cutoff = false) :
    c.sweep cutoff = c := by
  unfold sweep
  rw [List.filter_eq_self.2 fun e he => by
    simpa using h e.2 (List.mem_map_of_mem he)]

/-- On documents with scalar creation fields the sweep's deletion answers: the collection
swept, and how many documents were created before the cutoff. -/
theorem deleteWhere_below (hc : ∀ d ∈ c.docs, d.CreatedScalar) (s : Stamp) :
    c.deleteWhere [.field "createdAt" [.below (.stamp s)]] =
      .ok (c.sweep s, (c.docs.filter (·.createdBefore s)).length) := by
  have hkeep : c.entries.filterM (fun e => (!·) <$>
      Cond.holds (Clause.storedAll [.field "createdAt" [.below (.stamp s)]]) (.record e.2)) =
      .ok (c.entries.filter fun e => !e.2.createdBefore s) :=
    filterM_eq_ok _ _ _ fun e he => by
      rw [(hc e.2 (List.mem_map_of_mem he)).holds_below s]
      rfl
  unfold deleteWhere
  simp only [hkeep, bind, Except.bind, pure, Except.pure, Except.ok.injEq]
  have hlen : c.entries.length = (c.entries.filter fun e => e.2.createdBefore s).length +
      (c.entries.filter fun e => !e.2.createdBefore s).length :=
    List.length_eq_length_filter_add _
  refine Prod.ext rfl ?_
  dsimp only
  rw [docs, List.filter_map, List.length_map]
  exact Nat.sub_eq_of_eq_add hlen

/-- A sweep keeps what a condition selects when the condition fails on every document created
before the cutoff. -/
theorem select_sweep {cond : Cond}
    (hout : ∀ d ∈ c.docs, d.createdBefore cutoff = true →
      Cond.holds (Clause.storedAll cond) (.record d) = .ok false) :
    (c.sweep cutoff).select cond = c.select cond := by
  unfold select
  rw [docs_sweep]
  exact filterM_filter_of_rejects _ _ _ fun d hd hkeep => hout d hd (by simpa using hkeep)

theorem select_sweep_window {cond : Cond} {s : Stamp} {rest : List Test}
    (hmem : Clause.field "createdAt" (.atLeast (.stamp s) :: rest) ∈ cond)
    (hdec : ∀ d : Record, ∀ u : Stamp, d.get? "createdAt" = some (.stamp u) →
      ∃ b, Cond.holds (Clause.storedAll cond) (.record d) = .ok b)
    (hs : s.offset = none) (hcut : cutoff.offset = none) (hle : cutoff.wall ≤ s.wall) :
    (c.sweep cutoff).select cond = c.select cond :=
  select_sweep fun d _ hb => by
    obtain ⟨u, hu⟩ := Record.stamp_of_createdBefore hb
    exact Cond.holds_eq_false_of_createdBefore hmem (Stamp.toStored_utc_le hcut hs hle)
      (hdec d u hu) hb

section Windows

variable {s : Stamp} (hs : s.offset = none) (hcut : cutoff.offset = none)
  (hle : cutoff.wall ≤ s.wall)
include hs hcut hle

theorem select_since_sweep :
    (c.sweep cutoff).select [.field "createdAt" [.atLeast (.stamp s)]] =
      c.select [.field "createdAt" [.atLeast (.stamp s)]] :=
  select_sweep_window (List.mem_singleton_self _)
    (fun _ _ hu => Cond.holds_ok_of_stampWindow (by simp [Clause.StampWindow]) hu) hs hcut hle

theorem select_window_sweep (e : Stamp) :
    (c.sweep cutoff).select [.field "createdAt" [.atLeast (.stamp s), .atMost (.stamp e)]] =
      c.select [.field "createdAt" [.atLeast (.stamp s), .atMost (.stamp e)]] :=
  select_sweep_window (List.mem_singleton_self _)
    (fun _ _ hu => Cond.holds_ok_of_stampWindow (by simp [Clause.StampWindow]) hu) hs hcut hle

theorem select_errorSince_sweep :
    (c.sweep cutoff).select [.field "level" [.eq (.str Level.error.text)],
        .field "createdAt" [.atLeast (.stamp s)]] =
      c.select [.field "level" [.eq (.str Level.error.text)],
        .field "createdAt" [.atLeast (.stamp s)]] :=
  select_sweep_window (List.mem_cons_of_mem _ (List.mem_singleton_self _))
    (fun _ _ hu => Cond.holds_ok_of_stampWindow (by simp [Clause.StampWindow, Test.compares]) hu)
    hs hcut hle

theorem select_listing_sweep {f : Filters} (x : Bool) (hstart : f.startDate = some s) :
    (c.sweep cutoff).select (f.cond x) = c.select (f.cond x) := by
  have hwin : f.windowClause = some (.field "createdAt"
      (.atLeast (.stamp s) :: (f.endDate.map (Test.atMost ∘ .stamp)).toList)) := by
    unfold Filters.windowClause
    rw [hstart]
    rfl
  exact select_sweep_window (List.mem_filterMap.2 ⟨f.windowClause,
    by simp only [List.mem_cons, true_or, or_true], hwin⟩)
    (fun _ _ hu => Filters.cond_holds_ok f x hu) hs hcut hle

end Windows

end Collection

end AuditTrail
