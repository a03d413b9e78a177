import AuditTrail.Proofs.EventFields
import AuditTrail.Proofs.FilterMatch
import AuditTrail.Proofs.KeyOrder

/-!
# Reads that answer

On documents created at stamps, the conditions of a listing are decided everywhere, and finding,
counting and the parts of a summary answer on documents with text fields and naive stamps.
-/

namespace AuditTrail

open Sorting

namespace Test

def compares : Test → Bool
  | .atLeast _ | .atMost _ | .below _ => true
  | _ => false

theorem compares_stored (t : Test) : t.stored.compares = t.compares := by
  cases t <;> rfl

theorem holds_ok_of_compares {t : Test} (h : t.compares = false) (x : Option Value) :
    ∃ b, t.holds x = .ok b := by
  cases t <;> cases x <;> simp_all [compares, holds]

theorem cmpHolds_stamp_ok (s u : Stamp) (ok : Ordering → Bool) :
    ∃ b, cmpHolds (.stamp s) ok (some (.stamp u)) = .ok b := by
  rw [cmpHolds, show (Value.stamp u).candidates = [.stamp u] from rfl, anyM_singleton]
  simp [Value.sortRank, bind, Except.bind, pure, Except.pure]

theorem allHold_ok (tests : List Test) (found : List (Option Value))
    (h : ∀ t ∈ tests, ∀ x ∈ found, ∃ b, t.holds x = .ok b) :
    ∃ b, allHold tests found = .ok b := by
  have hx : ∀ x ∈ found, ∃ b, tests.allM (·.holds x) = .ok b :=
    fun x hx => allM_ok _ tests fun t ht => h t ht x hx
  unfold allHold
  split
  · split
    · exact ⟨_, rfl⟩
    · exact allM_ok _ found hx
  · exact anyM_ok _ found hx

end Test

namespace Clause

theorem holds_field_ok (path : String) {tests : List Test} (h : ∀ t ∈ tests, t.compares = false)
    (doc : Value) : ∃ b, (Clause.field path tests).stored.holds doc = .ok b := by
  refine Test.allHold_ok _ _ fun t ht x _ => Test.holds_ok_of_compares ?_ x
  obtain ⟨t', ht', rfl⟩ := List.mem_map.1 ht
  rw [Test.compares_stored]
  exact h t' ht'

theorem anyHolds_ok (doc : Value) (cs : List Clause) (h : ∀ c ∈ cs, ∃ b, c.holds doc = .ok b) :
    ∃ b, anyHolds doc cs = .ok b := by
  induction cs with
  | nil => exact ⟨false, rfl⟩
  | cons c cs ih =>
    obtain ⟨b, hc⟩ := h c (by simp)
    obtain ⟨e, hcs⟩ := ih fun c' hc' => h c' (by simp [hc'])
    cases b with
    | true => exact ⟨true, by simp [anyHolds, hc, bind, Except.bind, pure, Except.pure]⟩
    | false => exact ⟨e, by simp [anyHolds, hc, hcs, bind, Except.bind]⟩

end Clause

namespace Filters

theorem cond_holds_ok (f : Filters) (excludeSelfAudit : Bool) {d : Record} {u : Stamp}
    (hu : d.get? "createdAt" = some (.stamp u)) :
    ∃ b, Cond.holds (Clause.storedAll (f.cond excludeSelfAudit)) (.record d) = .ok b := by
  rw [Cond.holds, Clause.storedAll_eq_map]
  refine allM_ok _ _ fun c' hc' => ?_
  obtain ⟨c, hc, rfl⟩ := List.mem_map.1 hc'
  clear hc'
  revert c
  simp only [Filters.cond]
  rw [forall_mem_filterMap_id _ fun c => ∃ b, (Clause.stored c).holds (.record d) = .ok b]
  simp only [List.mem_cons, List.not_mem_nil, or_false, forall_eq_or_imp, forall_eq,
    Option.forall_mem_map]
  have eqText : ∀ (path : String) (s : String),
      ∃ b, (Clause.field path [.eq (.str s)]).stored.holds (.record d) = .ok b :=
    fun path s => Clause.holds_field_ok path (by simp [Test.compares]) _
  refine ⟨fun l _ => eqText _ _, fun a _ => ?_, fun _ _ => eqText _ _, fun _ _ => eqText _ _,
    fun _ _ => eqText _ _, fun _ _ => eqText _ _, fun c hc => ?_, fun c hc => ?_, fun c hc => ?_⟩
  · -- the action clause tests equality or membership
    cases a with
    | one a => exact eqText _ _
    | reservations => exact Clause.holds_field_ok _ (by simp [Test.compares]) _
  · -- the time window compares the creation stamp with stamps
    have htests : ∀ t ∈ (f.startDate.map (Test.atLeast ∘ .stamp)).toList ++
        (f.endDate.map (Test.atMost ∘ .stamp)).toList,
        ∃ b, t.stored.holds (some (.stamp u)) = .ok b := by
      intro t ht
      simp only [List.mem_append, Option.mem_toList, Option.map_eq_some_iff,
        Function.comp_apply] at ht
      rcases ht with ⟨s, -, rfl⟩ | ⟨s, -, rfl⟩
      · simp only [Test.stored, Value.stored, Test.holds]
        exact Test.cmpHolds_stamp_ok s.toStored u _
      · simp only [Test.stored, Value.stored, Test.holds]
        exact Test.cmpHolds_stamp_ok s.toStored u _
    unfold windowClause at hc
    split at hc
    · cases hc
    · cases hc
      refine Test.allHold_ok _ _ fun t ht x hx => ?_
      rw [splitOn_createdAt] at hx
      change x ∈ [d.get? "createdAt"] at hx
      rw [hu, List.mem_singleton] at hx
      obtain ⟨t', ht', rfl⟩ := List.mem_map.1 ht
      exact hx ▸ htests t' ht'
  · -- the search looks for text, in each of its fields
    unfold searchClause at hc
    split at hc
    · cases hc
      refine Clause.anyHolds_ok _ _ fun c hc => ?_
      rw [Clause.storedAll_eq_map] at hc
      obtain ⟨c', hc', rfl⟩ := List.mem_map.1 hc
      obtain ⟨p, -, rfl⟩ := List.mem_map.1 hc'
      exact Clause.holds_field_ok _ (by simp [Test.compares]) _
    · cases hc
  · split at hc
    · cases hc
      exact Clause.holds_field_ok _ (by simp [Test.compares]) _
    · cases hc

end Filters

/-- Whether a condition, its operands stored, selects a document; a condition that cannot be
decided on the document does not. -/
def Cond.selects (c : Cond) (d : Record) : Bool :=
  match Cond.holds (Clause.storedAll c) (.record d) with
  | .ok b => b
  | .error _ => false

namespace Collection

variable {c : Collection} {cond : Cond} {M : List Record}

/-- A condition decided on every document selects the documents it holds of, in order. -/
theorem select_eq (h : ∀ d ∈ c.docs, ∃ b, Cond.holds (Clause.storedAll cond) (.record d) = .ok b) :
    c.select cond = .ok (c.docs.filter cond.selects) := by
  unfold select
  refine filterM_eq_ok _ _ _ fun d hd => ?_
  obtain ⟨b, hb⟩ := h d hd
  rw [hb, Cond.selects, hb]

theorem find_eq (hsel : c.select cond = .ok M) {keys : List SortKey} {ys : List Record}
    (hord : order keys M = .ok ys) (skip : Nat) {limit : Nat} (hlimit : limit ≠ 0) :
    c.find cond keys skip limit = .ok ((ys.drop skip).take limit) := by
  simp [find, hsel, hord, hlimit, bind, Except.bind, pure, Except.pure]

theorem count_eq (hsel : c.select cond = .ok M) : c.count cond = .ok M.length := by
  simp [count, hsel, Functor.map, Except.map]

theorem fst_mem_of_mem_runs {α : Type} {eq : α → α → Bool} {xs : List α} {p : α × Nat}
    (h : p ∈ runs eq xs) : p.1 ∈ xs := by
  unfold runs at h
  rw [List.mem_reverse] at h
  -- a fold whose step keeps every key an item keeps it over the items it passes
  have key : ∀ f : List (α × Nat) → α → List (α × Nat),
      (∀ acc x, (∀ q ∈ acc, q.1 ∈ xs) → x ∈ xs → ∀ q ∈ f acc x, q.1 ∈ xs) →
      ∀ (ys : List α) (acc : List (α × Nat)), (∀ q ∈ acc, q.1 ∈ xs) → (∀ y ∈ ys, y ∈ xs) →
        ∀ q ∈ ys.foldl f acc, q.1 ∈ xs := by
    intro f hf ys
    induction ys with
    | nil => exact fun acc hacc _ => hacc
    | cons y ys ih =>
      intro acc hacc hys
      rw [List.foldl_cons]
      exact ih _ (hf acc y hacc (hys y (by simp))) fun y' hy' => hys y' (by simp [hy'])
  refine key _ (fun acc x hacc hx q hq => ?_) xs [] (by simp) (fun y hy => hy) p h
  split at hq
  · split at hq
    · rcases List.mem_cons.1 hq with rfl | hq
      · exact (hacc _ List.mem_cons_self :)
      · exact hacc q (by simp [hq])
    · rcases List.mem_cons.1 hq with rfl | hq
      · exact hx
      · exact hacc q hq
  · rw [List.mem_singleton] at hq
    subst hq
    exact hx

theorem levelCounts_ok (hsel : c.select cond = .ok M)
    (hlevel : ∀ d ∈ M, ((d.get? "level").getD .null).IsTextOrNull) :
    ∃ counts, c.levelCounts cond = .ok counts := by
  have hS : ∀ v ∈ M.map (fun d => (d.get? "level").getD .null), v.IsTextOrNull := by
    simpa using hlevel
  obtain ⟨sorted, hsorted, hstable⟩ := sortByM_spec Value.strictWeakOn_storeBefore
    (fun a b ha hb => Value.sortLt_eq_ok ha hb) false _ fun v hv => (hS v hv).sortable
  simp only [levelCounts, hsel, hsorted, bind, Except.bind, pure, Except.pure]
  refine foldlM_answers _ _ _ fun acc p hp => ?_
  have hk := hS _ (hstable.perm.mem_iff.1 (fst_mem_of_mem_runs hp))
  simp [hk.unhashable]

theorem distinctCount_ok (hsel : c.select cond = .ok M) {path : String}
    (hpath : ∀ d ∈ M, ∀ v, (Value.record d).atPath path = some v → v.IsTextOrNull) :
    ∃ n, c.distinctCount cond path = .ok n := by
  unfold distinctCount distinct
  rw [hsel]
  simp only [bind, Except.bind]
  split
  · -- every document adds its value, which can be hashed
    rename_i e hfold
    refine absurd hfold (foldlM_ne_error _ _ _ (fun acc d hd => ?_) _)
    cases hv : (Value.record d).atPath path with
    | none => exact ⟨acc, rfl⟩
    | some v =>
      rcases (hpath d hd v hv).eq_or with rfl | ⟨s, rfl⟩ | ⟨e, m, rfl⟩ <;> exact ⟨_, rfl⟩
  · exact ⟨_, rfl⟩

section Range

def NaiveStamp (v : Value) : Prop := ∃ t : Stamp, v = .stamp t ∧ t.offset = none

def pick (op : Comparison) (cur x : Value) : Except Failure Value := do
  if ← Value.pyCompare op x cur then pure x else pure cur

theorem pick_ok (op : Comparison) {cur x : Value} (hcur : NaiveStamp cur) (hx : NaiveStamp x) :
    ∃ y, pick op cur x = .ok y ∧ NaiveStamp y := by
  obtain ⟨t, rfl, ht⟩ := hcur
  obtain ⟨u, rfl, hu⟩ := hx
  cases hc : op.holds (compare u.utc t.utc)
  · exact ⟨_, by simp [pick, Value.pyCompare, ht, hu, hc, bind, Except.bind, pure, Except.pure],
      t, rfl, ht⟩
  · exact ⟨_, by simp [pick, Value.pyCompare, ht, hu, hc, bind, Except.bind, pure, Except.pure],
      u, rfl, hu⟩

theorem foldlM_pick_ok (op : Comparison) {v : Value} {vs : List Value}
    (h : ∀ w ∈ v :: vs, NaiveStamp w) :
    ∃ m, vs.foldlM (pick op) v = .ok m ∧ NaiveStamp m :=
  foldlM_ok NaiveStamp (pick op) vs v (h v (by simp)) fun _ x hcur hx =>
    pick_ok op hcur (h x (by simp [hx]))

theorem pyMin_ok : ∀ {vs : List Value}, (∀ v ∈ vs, NaiveStamp v) →
    ∃ lo, Value.pyMin vs = .ok lo ∧ ∀ v ∈ lo, NaiveStamp v
  | [], _ => ⟨none, rfl, by simp⟩
  | v :: vs, h => by
    obtain ⟨m, hm, hmI⟩ := foldlM_pick_ok .less h
    exact ⟨some m, show some <$> vs.foldlM (pick .less) v = _ by
      simp [hm, Functor.map, Except.map], by simpa using hmI⟩

theorem pyMax_ok : ∀ {vs : List Value}, (∀ v ∈ vs, NaiveStamp v) →
    ∃ hi, Value.pyMax vs = .ok hi ∧ ∀ v ∈ hi, NaiveStamp v
  | [], _ => ⟨none, rfl, by simp⟩
  | v :: vs, h => by
    obtain ⟨m, hm, hmI⟩ := foldlM_pick_ok .greater h
    exact ⟨some m, show some <$> vs.foldlM (pick .greater) v = _ by
      simp [hm, Functor.map, Except.map], by simpa using hmI⟩

theorem createdRange_ok (hsel : c.select cond = .ok M)
    (hcreated : ∀ d ∈ M, ∃ t : Stamp, d.get? "createdAt" = some (.stamp t) ∧ t.offset = none) :
    ∃ lo hi, c.createdRange cond = .ok (lo, hi) ∧ (∀ v ∈ lo, NaiveStamp v) ∧
      ∀ v ∈ hi, NaiveStamp v := by
  unfold createdRange
  rw [hsel]
  simp only [bind, Except.bind]
  generalize hV : List.filterMap _ M = vals
  have hvals : ∀ v ∈ vals, NaiveStamp v := by
    rw [← hV]
    intro v hv
    obtain ⟨d, hd, hF⟩ := List.mem_filterMap.1 hv
    obtain ⟨t, ht, hoff⟩ := hcreated d hd
    rw [ht] at hF
    cases hF
    exact ⟨t, rfl, hoff⟩
  obtain ⟨lo, hlo, hloI⟩ := pyMin_ok hvals
  obtain ⟨hi, hhi, hhiI⟩ := pyMax_ok hvals
  exact ⟨lo, hi, by simp [hlo, hhi, pure, Except.pure], hloI, hhiI⟩

end Range

end Collection

end AuditTrail
