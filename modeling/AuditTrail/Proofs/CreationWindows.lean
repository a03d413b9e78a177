import AuditTrail.Proofs.ReportOutcomes

/-!
# Windows on the creation stamp

Which documents a window on `createdAt` holds (`Record.createdSince` and its kin), as the store
decides it with the bounds cut to the millisecond.
-/

namespace AuditTrail

open Collection

namespace Record

/-- Created at a stamp no earlier than `s` as the store keeps it. -/
def createdSince (s : Stamp) (d : Record) : Bool :=
  match createdStamp? d with
  | some t => decide (s.toStored.utc ≤ t.utc)
  | none => false

def createdUpto (s : Stamp) (d : Record) : Bool :=
  match createdStamp? d with
  | some t => decide (t.utc ≤ s.toStored.utc)
  | none => false

def createdBefore (s : Stamp) (d : Record) : Bool :=
  match createdStamp? d with
  | some t => decide (t.utc < s.toStored.utc)
  | none => false

section
variable {d : Record} {u : Stamp} (hu : d.get? "createdAt" = some (.stamp u))
include hu

theorem createdStamp?_of_stamp : createdStamp? d = some u := by
  simp [createdStamp?, hu]

theorem createdSince_of_stamp (s : Stamp) : d.createdSince s = decide (s.toStored.utc ≤ u.utc) := by
  simp [createdSince, createdStamp?_of_stamp hu]

theorem createdUpto_of_stamp (s : Stamp) : d.createdUpto s = decide (u.utc ≤ s.toStored.utc) := by
  simp [createdUpto, createdStamp?_of_stamp hu]

theorem createdBefore_of_stamp (s : Stamp) : d.createdBefore s = decide (u.utc < s.toStored.utc) := by
  simp [createdBefore, createdStamp?_of_stamp hu]

end

theorem eq_of_createdStamp? {d : Record} {t : Stamp} (h : createdStamp? d = some t) :
    d.get? "createdAt" = some (.stamp t) := by
  unfold createdStamp? at h
  split at h
  · rename_i t' ht'
    cases h
    exact ht'
  · cases h

end Record

theorem length_createdStamps {M : List Record}
    (hM : ∀ d ∈ M, ∃ u, d.get? "createdAt" = some (.stamp u)) :
    (createdStamps M).length = M.length := by
  induction M with
  | nil => rfl
  | cons d M ih =>
    obtain ⟨u, hu⟩ := hM d List.mem_cons_self
    simp [createdStamps, Record.createdStamp?_of_stamp hu] at ih ⊢
    exact ih fun d' hd' => hM d' (List.mem_cons_of_mem _ hd')

/-! ### The store's tests on a creation stamp -/

namespace Test

theorem holds_atLeast_stamp (s u : Stamp) :
    (Test.atLeast (.stamp s)).holds (some (.stamp u)) = .ok (decide (s.utc ≤ u.utc)) := by
  by_cases h : s.utc ≤ u.utc <;>
    simp [holds, cmpHolds, Value.candidates, Value.sortRank, Value.rank, Value.storeCmp_stamp,
      bind, Except.bind, pure, Except.pure, Int.compare_eq_lt, h]

theorem holds_atMost_stamp (s u : Stamp) :
    (Test.atMost (.stamp s)).holds (some (.stamp u)) = .ok (decide (u.utc ≤ s.utc)) := by
  by_cases h : u.utc ≤ s.utc <;>
    simp [holds, cmpHolds, Value.candidates, Value.sortRank, Value.rank, Value.storeCmp_stamp,
      bind, Except.bind, pure, Except.pure, Int.compare_eq_gt, h]

theorem holds_below_stamp (s u : Stamp) :
    (Test.below (.stamp s)).holds (some (.stamp u)) = .ok (decide (u.utc < s.utc)) := by
  by_cases h : u.utc < s.utc <;>
    simp [holds, cmpHolds, Value.candidates, Value.sortRank, Value.rank, Value.storeCmp_stamp,
      bind, Except.bind, pure, Except.pure, Int.compare_eq_lt, h]

end Test

namespace Clause

variable {d : Record} {u : Stamp}

theorem holds_createdAt (hu : d.get? "createdAt" = some (.stamp u)) (tests : List Test) :
    (Clause.field "createdAt" tests).holds (.record d) =
      tests.allM (·.holds (some (.stamp u))) := by
  show Test.allHold tests ((Value.record d).reach ("createdAt".splitOn ".")) = _
  rw [Filters.splitOn_createdAt]
  change Test.allHold tests [d.get? "createdAt"] = _
  rw [hu, Test.allHold_singleton]

theorem holds_level (hd : ((d.get? "level").getD .null).IsTextOrNull) (l : Level) :
    (Clause.field "level" [.eq (.str l.text)]).stored.holds (.record d) = .ok (d.hasLevel l) := by
  have hsplit : "level".splitOn "." = ["level"] := splitOn_sortPath (by simp [sortPaths, textPaths])
  have hx : ∀ y, d.get? "level" = some y → y.IsScalar := by
    intro y hy
    rw [hy, Option.getD_some] at hd
    cases y <;> simp_all [Value.IsTextOrNull, Value.IsScalar]
  show Test.allHold [.eq (Value.str l.text).stored] ((Value.record d).reach ("level".splitOn ".")) = _
  rw [hsplit]
  change Test.allHold [.eq (.str l.text)] [d.get? "level"] = _
  rw [Test.allHold_singleton, allM_singleton]
  simp only [Test.holds, Test.eqHolds_str _ hx, Record.hasLevel]
  cases d.get? "level" with
  | none => simp [Value.textOf?]
  | some v => simp only [Option.bind_some, Option.getD_some, Bool.beq_eq_decide_eq]

end Clause

/-! ### The reports' conditions -/

namespace Cond

variable {d : Record} {u : Stamp} (hu : d.get? "createdAt" = some (.stamp u))
include hu

theorem selects_since (s : Stamp) :
    Cond.selects [.field "createdAt" [.atLeast (.stamp s)]] d = d.createdSince s := by
  rw [Record.createdSince_of_stamp hu]
  by_cases h : s.toStored.utc ≤ u.utc <;>
    simp [selects, Cond.holds, Clause.storedAll, Clause.stored, Test.stored, Value.stored,
      Clause.holds_createdAt hu, Test.holds_atLeast_stamp, bind, Except.bind, pure, Except.pure, h]

theorem selects_window (s e : Stamp) :
    Cond.selects [.field "createdAt" [.atLeast (.stamp s), .atMost (.stamp e)]] d =
      (d.createdSince s && d.createdUpto e) := by
  rw [Record.createdSince_of_stamp hu, Record.createdUpto_of_stamp hu]
  by_cases h : s.toStored.utc ≤ u.utc <;> by_cases h' : u.utc ≤ e.toStored.utc <;>
    simp [selects, Cond.holds, Clause.storedAll, Clause.stored, Test.stored, Value.stored,
      Clause.holds_createdAt hu, Test.holds_atLeast_stamp, Test.holds_atMost_stamp, bind,
      Except.bind, pure, Except.pure, h, h']

theorem selects_levelSince (hd : ((d.get? "level").getD .null).IsTextOrNull) (l : Level)
    (s : Stamp) :
    Cond.selects [.field "level" [.eq (.str l.text)], .field "createdAt" [.atLeast (.stamp s)]] d =
      (d.hasLevel l && d.createdSince s) := by
  have hlevel := Clause.holds_level hd l
  simp only [Clause.stored, Test.stored, Value.stored, List.map_cons, List.map_nil] at hlevel
  rw [Record.createdSince_of_stamp hu]
  cases hl : d.hasLevel l <;> rw [hl] at hlevel <;> by_cases h : s.toStored.utc ≤ u.utc <;>
    simp [selects, Cond.holds, Clause.storedAll, Clause.stored, Test.stored, Value.stored, hlevel,
      Clause.holds_createdAt hu, Test.holds_atLeast_stamp, bind, Except.bind, pure, Except.pure, h]

end Cond

namespace Collection

variable {c : Collection} (hc : ∀ d ∈ c.docs, ∃ u, d.get? "createdAt" = some (.stamp u))
include hc

theorem select_of_stamps {cond : Cond} (hw : ∀ cl ∈ cond, cl.StampWindow) :
    c.select cond = .ok (c.docs.filter cond.selects) :=
  select_eq fun d hd => by
    obtain ⟨u, hu⟩ := hc d hd
    exact Cond.holds_ok_of_stampWindow hw hu

/-- A condition of stamp windows that agrees with `q` on every stored document, given the stamp
it was created at, selects the documents `q` keeps. -/
theorem select_of_stamps_eq {cond : Cond} (hw : ∀ cl ∈ cond, cl.StampWindow) {q : Record → Bool}
    (hq : ∀ d ∈ c.docs, ∀ u, d.get? "createdAt" = some (.stamp u) → cond.selects d = q d) :
    c.select cond = .ok (c.docs.filter q) := by
  rw [select_of_stamps hc hw]
  congr 1
  refine List.filter_congr fun d hd => ?_
  obtain ⟨u, hu⟩ := hc d hd
  exact hq d hd u hu

theorem select_since (s : Stamp) :
    c.select [.field "createdAt" [.atLeast (.stamp s)]] = .ok (c.docs.filter (·.createdSince s)) :=
  select_of_stamps_eq hc (by simp [Clause.StampWindow]) fun _ _ _ hu => Cond.selects_since hu s

theorem select_window (s e : Stamp) :
    c.select [.field "createdAt" [.atLeast (.stamp s), .atMost (.stamp e)]] =
      .ok (c.docs.filter fun d => d.createdSince s && d.createdUpto e) :=
  select_of_stamps_eq hc (by simp [Clause.StampWindow]) fun _ _ _ hu => Cond.selects_window hu s e

end Collection

/-! ### Newest first -/

theorem createdAt_le_of_keysBefore {a b : Record} {s t : Stamp}
    (ha : a.get? "createdAt" = some (.stamp s)) (hb : b.get? "createdAt" = some (.stamp t))
    (h : keysBefore newestFirst a b = true) : t.utc ≤ s.utc := by
  simp only [keysBefore, newestFirst, SortKey.before, Record.keyValue_sortPath _
    (show "createdAt" ∈ sortPaths by simp [sortPaths]), ha, hb, Option.getD_some,
    Value.storeBefore, Value.kindBefore, Value.rank] at h
  by_contra hlt
  simp only [Int.not_le] at hlt
  simp [hlt, Int.lt_asymm hlt] at h

theorem firstBy_head_createdStamp {ys : List Record}
    (hys : ∀ d ∈ ys, ∃ t, d.get? "createdAt" = some (.stamp t))
    (hsorted : ys.Pairwise fun a b => keysBefore newestFirst a b = true) :
    FirstBy (fun s u => u.utc ≤ s.utc) (createdStamps ys) (ys.head?.bind createdStamp?) := by
  cases ys with
  | nil => exact ⟨by simp [createdStamps], fun s hs => by simp at hs⟩
  | cons y ys =>
    obtain ⟨t, ht⟩ := hys y List.mem_cons_self
    have hy : createdStamp? y = some t := Record.createdStamp?_of_stamp ht
    refine ⟨by simp [createdStamps, hy], fun s hs => ?_⟩
    simp only [List.head?_cons, Option.bind_some, hy, Option.mem_def, Option.some.injEq] at hs
    subst hs
    refine ⟨by simp [createdStamps, hy], fun u hu => ?_⟩
    simp only [createdStamps, List.filterMap_cons, hy, List.mem_cons] at hu
    rcases hu with rfl | hu
    · exact le_refl _
    · obtain ⟨d, hd, hdu⟩ := List.mem_filterMap.1 hu
      exact createdAt_le_of_keysBefore ht (Record.eq_of_createdStamp? hdu)
        (List.rel_of_pairwise_cons hsorted hd)

/-! ### Reads on a quiet store -/

namespace Service

theorem onDb_read_of_quiet {sv : Service} (hq : sv.db.Quiet) {α : Type} (m : StoreMethod)
    (op : Collection → Except Failure α) : onDb (Db.read m op) sv = (op sv.db.coll, sv) := by
  unfold onDb
  rw [Db.read_of_quiet_eq hq]

end Service

end AuditTrail
