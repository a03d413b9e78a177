import AuditTrail.Proofs.LevelCounts
import AuditTrail.Proofs.PageLinks
import AuditTrail.Proofs.ReadOnlyWork
import AuditTrail.Proofs.StoredEvents

/-!
# The summary of a listing

A listing that answers read its counts per level, distinct users and creation range from the
collection, and on readable stored events they describe the matching documents
(`listing_summary_consistent`).
-/

namespace AuditTrail

open Sorting

/-! ### Documents with the known levels -/

namespace Record

theorem hasLevel_count (d : Record) :
    (d.hasLevel .error).toNat + (d.hasLevel .warn).toNat + (d.hasLevel .info).toNat +
        (d.hasLevel .debug).toNat ≤ 1 ∧
      ((d.hasLevel .error).toNat + (d.hasLevel .warn).toNat + (d.hasLevel .info).toNat +
        (d.hasLevel .debug).toNat = 1 ↔ ∃ l : Level, d.hasLevel l = true) := by
  unfold hasLevel
  generalize ((d.get? "level").getD .null).textOf? = t
  constructor
  · by_cases h₁ : t = some "error" <;> by_cases h₂ : t = some "warn" <;>
      by_cases h₃ : t = some "info" <;> by_cases h₄ : t = some "debug" <;>
      simp_all [Level.text]
  · constructor
    · intro h
      by_cases h₁ : t = some "error"
      · exact ⟨.error, by simp [Level.text, h₁]⟩
      by_cases h₂ : t = some "warn"
      · exact ⟨.warn, by simp [Level.text, h₂]⟩
      by_cases h₃ : t = some "info"
      · exact ⟨.info, by simp [Level.text, h₃]⟩
      by_cases h₄ : t = some "debug"
      · exact ⟨.debug, by simp [Level.text, h₄]⟩
      simp [Level.text, h₁, h₂, h₃, h₄] at h
    · rintro ⟨l, hl⟩
      rw [decide_eq_true_eq] at hl
      subst hl
      cases l <;> simp [Level.text]

theorem levelCounts_le : ∀ M : List Record,
    (M.filter (·.hasLevel .error)).length + (M.filter (·.hasLevel .warn)).length +
        (M.filter (·.hasLevel .info)).length + (M.filter (·.hasLevel .debug)).length ≤ M.length ∧
      ((M.filter (·.hasLevel .error)).length + (M.filter (·.hasLevel .warn)).length +
          (M.filter (·.hasLevel .info)).length + (M.filter (·.hasLevel .debug)).length =
          M.length ↔ ∀ d ∈ M, ∃ l : Level, d.hasLevel l = true)
  | [] => by simp
  | d :: M => by
    obtain ⟨hle, hiff⟩ := levelCounts_le M
    obtain ⟨hd, hdiff⟩ := hasLevel_count d
    have hcons : ∀ l : Level, ((d :: M).filter (·.hasLevel l)).length =
        (d.hasLevel l).toNat + (M.filter (·.hasLevel l)).length := fun l => by
      cases h : d.hasLevel l <;> simp [h, Nat.add_comm]
    rw [hcons, hcons, hcons, hcons, List.length_cons]
    refine ⟨by omega, ?_⟩
    rw [List.forall_mem_cons, ← hdiff, ← hiff]
    omega

end Record

/-! ### Distinct users -/

namespace Value

theorem same_self (e : Exact) (h : e ≠ .nan) : Exact.same e e = true := by
  cases e <;> simp_all [Exact.same, Exact.cmp]

theorem ofFloat_ne_nan {x : Float} (hx : x.isNaN = false) : Exact.ofFloat x ≠ .nan := by
  unfold Exact.ofFloat
  rw [hx, if_neg Bool.false_ne_true]
  split
  · split <;> simp
  · dsimp only
    split <;> simp

theorem sameEq_self_of_scalar {v : Value} (hv : v.IsScalar) : sameEq v v = true := by
  cases v
  case float x =>
    cases hx : x.isNaN
    · rw [sameEq, Bool.or_eq_true]
      right
      exact same_self _ (ofFloat_ne_nan hx)
    · simp only [sameEq, bothNaN, hx, Bool.and_self, Bool.true_or]
  case int n => simp [sameEq, looseEq, looseNumber?, same_self]
  case bool b => simp [sameEq, looseEq, looseNumber?, same_self]
  case stamp t => cases h : t.offset <;> simp [sameEq, looseEq, h]
  all_goals simp_all [IsScalar, sameEq, looseEq]

theorem eq_null_of_sameEq_null {u : Value} (h : sameEq .null u = true) : u = .null := by
  cases u <;> simp_all [sameEq, bothNaN, looseEq, looseNumber?]

end Value

namespace Collection

theorem addDistinct_of_scalar {plain records : List Value} {v : Value}
    {acc : List Value × List Value} (hs : v.IsScalar) (h : addDistinct (plain, records) v = .ok acc) :
    acc = (if plain.any (Value.sameEq · v) then plain else plain ++ [v], records) := by
  cases v <;> simp_all [Value.IsScalar, addDistinct, Value.unhashable?]

/-- Distinct values of the user ids of documents: each is the id of one of them, no two are
equal, and every id is equal to one of them. -/
structure DistinctFrom (plain : List Value) (ds : List Record) : Prop where
  seen : ∀ r ∈ plain, ∃ d ∈ ds, d.get? "userId" = some r
  apart : plain.Pairwise (fun a b => Value.sameEq a b = false)
  covers : ∀ d ∈ ds, ∀ u, d.get? "userId" = some u → ∃ r ∈ plain, Value.sameEq r u = true

namespace DistinctFrom

variable {plain : List Value} {ds : List Record}

theorem nil : DistinctFrom [] [] := ⟨nofun, .nil, nofun⟩

theorem skip (h : DistinctFrom plain ds) {d : Record} (hd : d.get? "userId" = none) :
    DistinctFrom plain (ds ++ [d]) where
  seen r hr := by
    obtain ⟨d', hd', hr'⟩ := h.seen r hr
    exact ⟨d', List.mem_append_left _ hd', hr'⟩
  apart := h.apart
  covers d' hd' u hu := by
    rcases List.mem_append.1 hd' with hd' | hd'
    · exact h.covers d' hd' u hu
    · rw [List.mem_singleton.1 hd', hd] at hu
      cases hu

theorem add (h : DistinctFrom plain ds) {d : Record} {v : Value} (hd : d.get? "userId" = some v)
    (hv : v.IsScalar) :
    DistinctFrom (if plain.any (Value.sameEq · v) then plain else plain ++ [v]) (ds ++ [d]) := by
  have hseen : ∀ r ∈ plain, ∃ d' ∈ ds ++ [d], d'.get? "userId" = some r := fun r hr => by
    obtain ⟨d', hd', hr'⟩ := h.seen r hr
    exact ⟨d', List.mem_append_left _ hd', hr'⟩
  split
  · rename_i hany
    refine ⟨hseen, h.apart, fun d' hd' u hu => ?_⟩
    rcases List.mem_append.1 hd' with hd' | hd'
    · exact h.covers d' hd' u hu
    · rw [List.mem_singleton.1 hd', hd] at hu
      cases hu
      simpa using hany
  · rename_i hany
    rw [Bool.not_eq_true, List.any_eq_false] at hany
    refine ⟨fun r hr => ?_, ?_, fun d' hd' u hu => ?_⟩
    · rcases List.mem_append.1 hr with hr | hr
      · exact hseen r hr
      · rw [List.mem_singleton.1 hr]
        exact ⟨d, by simp, hd⟩
    · rw [List.pairwise_append]
      exact ⟨h.apart, List.pairwise_singleton _ _, fun a ha b hb => by
        rw [List.mem_singleton.1 hb]
        simpa using hany a ha⟩
    · rcases List.mem_append.1 hd' with hd' | hd'
      · obtain ⟨r, hr, hru⟩ := h.covers d' hd' u hu
        exact ⟨r, List.mem_append_left _ hr, hru⟩
      · rw [List.mem_singleton.1 hd', hd] at hu
        cases hu
        exact ⟨v, by simp, Value.sameEq_self_of_scalar hv⟩

end DistinctFrom

theorem foldlM_distinct {f : List Value × List Value → Record → Except Failure (List Value × List Value)}
    (hnone : ∀ acc d, d.get? "userId" = none → f acc d = .ok acc)
    (hsome : ∀ acc d v, d.get? "userId" = some v → f acc d = addDistinct acc v) :
    ∀ {ds pre : List Record} {plain : List Value} {res : List Value × List Value},
      (∀ d ∈ ds, ∀ v, d.get? "userId" = some v → v.IsScalar) → DistinctFrom plain pre →
      ds.foldlM f (plain, []) = .ok res → res.2 = [] ∧ DistinctFrom res.1 (pre ++ ds)
  | [], pre, plain, res, _, h, hres => by
    cases hres
    exact ⟨rfl, by simpa using h⟩
  | d :: ds, pre, plain, res, hs, h, hres => by
    rw [List.foldlM_cons, bind_eq_ok] at hres
    obtain ⟨acc, hacc, hrest⟩ := hres
    have hs' : ∀ d' ∈ ds, ∀ v, d'.get? "userId" = some v → v.IsScalar :=
      fun d' hd' => hs d' (List.mem_cons_of_mem d hd')
    cases hd : d.get? "userId" with
    | none =>
      rw [hnone _ d hd] at hacc
      cases hacc
      simpa using foldlM_distinct hnone hsome hs' (h.skip hd) hrest
    | some v =>
      have hv := hs d List.mem_cons_self v hd
      rw [hsome _ d v hd] at hacc
      rw [addDistinct_of_scalar hv hacc] at hrest
      simpa using foldlM_distinct hnone hsome hs' (h.add hd hv) hrest

variable {c : Collection} {cond : Cond} {M : List Record}

/-- The number of distinct users, for scalar user ids: the number of classes of non-null ids
under the equality the store's containers use. -/
theorem distinctCount_spec (hsel : c.select cond = .ok M)
    (hscalar : ∀ d ∈ M, ∀ v, d.get? "userId" = some v → v.IsScalar) {n : Nat}
    (hn : c.distinctCount cond "userId" = .ok n) :
    ∃ reps : List Value, (∀ r ∈ reps, r ≠ .null ∧ ∃ d ∈ M, d.get? "userId" = some r) ∧
      reps.Pairwise (fun a b => Value.sameEq a b = false) ∧
      (∀ d ∈ M, ∀ u, d.get? "userId" = some u → u ≠ .null → ∃ r ∈ reps, Value.sameEq r u = true) ∧
      n = reps.length := by
  have huser : ∀ d : Record, (Value.record d).atPath "userId" = d.get? "userId" :=
    fun d => atPath_sortPath d (by simp [sortPaths, textPaths])
  unfold distinctCount distinct at hn
  rw [hsel] at hn
  simp only [bind, Except.bind] at hn
  split at hn
  · cases hn
  · rename_i res hfold
    obtain ⟨hrec, hfrom⟩ := foldlM_distinct (fun acc d hd => by simp [huser, hd])
      (fun acc d v hd => by simp [huser, hd]) hscalar DistinctFrom.nil hfold
    obtain ⟨plain, records⟩ := res
    dsimp only at hrec hfrom hn
    subst hrec
    simp only [List.append_nil, Functor.map, Except.map, pure, Except.pure,
      Except.ok.injEq] at hn
    refine ⟨plain.filter (!·.isNull), fun r hr => ?_, hfrom.apart.filter _, fun d hd u hu hne => ?_,
      hn.symm⟩
    · rw [List.mem_filter] at hr
      obtain ⟨d, hd, hdr⟩ := hfrom.seen r hr.1
      refine ⟨fun h => by simp [h, Value.isNull] at hr, d, by simpa using hd, hdr⟩
    · obtain ⟨r, hr, hru⟩ := hfrom.covers d (by simpa using hd) u hu
      have hr' : r ≠ .null := fun h => hne (Value.eq_null_of_sameEq_null (h ▸ hru))
      refine ⟨r, List.mem_filter.2 ⟨hr, ?_⟩, hru⟩
      cases r <;> simp_all [Value.isNull]

end Collection

/-! ### The range of creation stamps -/

section FirstBy

variable {α : Type} {R : α → α → Prop} {xs ys : List α} {o : Option α}

/-- `o` is an item of `xs` related by `R` to each of them, or nothing when there are none: the
earliest stamp when `R` is "not later", the latest when it is "not earlier". -/
def FirstBy (R : α → α → Prop) (xs : List α) (o : Option α) : Prop :=
  (o = none ↔ xs = []) ∧ ∀ s ∈ o, s ∈ xs ∧ ∀ u ∈ xs, R s u

theorem FirstBy.perm (h : FirstBy R xs o) (hp : xs.Perm ys) : FirstBy R ys o := by
  have hnil : xs = [] ↔ ys = [] := by
    rw [← List.length_eq_zero_iff, hp.length_eq, List.length_eq_zero_iff]
  exact ⟨h.1.trans hnil, fun s hs => ⟨hp.mem_iff.1 (h.2 s hs).1,
    fun u hu => (h.2 s hs).2 u (hp.mem_iff.2 hu)⟩⟩

theorem FirstBy.head?_eq (h : FirstBy R xs o) (hsorted : xs.Pairwise R)
    (hanti : ∀ a ∈ xs, ∀ b ∈ xs, R a b → R b a → a = b) : xs.head? = o := by
  cases xs with
  | nil => exact (h.1.2 rfl).symm
  | cons x xs =>
    cases o with
    | none => exact absurd (h.1.1 rfl) (List.cons_ne_nil x xs)
    | some s =>
      obtain ⟨hs, hall⟩ := h.2 s rfl
      have hxs : x = s := by
        rcases List.mem_cons.1 hs with rfl | hs'
        · rfl
        · exact hanti x List.mem_cons_self s hs (List.rel_of_pairwise_cons hsorted hs')
            (hall x List.mem_cons_self)
      rw [hxs]
      rfl

end FirstBy

namespace Collection

variable {c : Collection} {cond : Cond} {M : List Record}

def createdStamp? (d : Record) : Option Stamp :=
  match d.get? "createdAt" with
  | some (.stamp t) => some t
  | _ => none

def createdStamps (M : List Record) : List Stamp := M.filterMap createdStamp?

theorem pick_stamp (op : Comparison) {t u : Stamp} (ht : t.offset = none) (hu : u.offset = none) :
    pick op (.stamp t) (.stamp u) =
      .ok (if op.holds (compare u.utc t.utc) then .stamp u else .stamp t) := by
  cases h : op.holds (compare u.utc t.utc) <;>
    simp [pick, Value.pyCompare, ht, hu, h, bind, Except.bind, pure, Except.pure]

theorem holds_compare_trans (op : Comparison) {a b c : Int} :
    op.holds (compare a b) = false → op.holds (compare b c) = false →
      op.holds (compare a c) = false := by
  cases op <;> simp [Comparison.holds, compare_lt_iff_lt, compare_gt_iff_gt] <;> omega

theorem holds_compare_of_holds (op : Comparison) {a b c : Int} :
    op.holds (compare a b) = true → op.holds (compare a c) = false →
      op.holds (compare b c) = false := by
  cases op <;> simp [Comparison.holds, compare_lt_iff_lt, compare_gt_iff_gt] <;> omega

theorem foldlM_pick_stamps (op : Comparison) :
    ∀ {ts : List Stamp} {t : Stamp} {m : Value}, t.offset = none → (∀ u ∈ ts, u.offset = none) →
      (ts.map Value.stamp).foldlM (pick op) (.stamp t) = .ok m →
      ∃ s ∈ t :: ts, m = .stamp s ∧ ∀ u ∈ t :: ts, op.holds (compare u.utc s.utc) = false
  | [], t, m, _, _, hm => by
    cases hm
    exact ⟨t, List.mem_singleton_self t, rfl, by cases op <;> simp [Comparison.holds]⟩
  | u :: ts, t, m, ht, hts, hm => by
    have hu := hts u List.mem_cons_self
    have hts' : ∀ w ∈ ts, w.offset = none := fun w hw => hts w (List.mem_cons_of_mem u hw)
    rw [List.map_cons, List.foldlM_cons, pick_stamp op ht hu, bind_eq_ok] at hm
    obtain ⟨cur, hcur, hrest⟩ := hm
    cases hut : op.holds (compare u.utc t.utc)
    · -- `t` stays, and `u` is not past it
      rw [hut, if_neg Bool.false_ne_true, Except.ok.injEq] at hcur
      subst hcur
      obtain ⟨s, hs, rfl, hall⟩ := foldlM_pick_stamps op ht hts' hrest
      refine ⟨s, ?_, rfl, fun w hw => ?_⟩
      · rcases List.mem_cons.1 hs with rfl | hs
        · exact List.mem_cons_self
        · exact List.mem_cons_of_mem _ (List.mem_cons_of_mem _ hs)
      · rcases List.mem_cons.1 hw with rfl | hw
        · exact hall w List.mem_cons_self
        rcases List.mem_cons.1 hw with rfl | hw
        · exact holds_compare_trans op hut (hall t List.mem_cons_self)
        · exact hall w (List.mem_cons_of_mem _ hw)
    · -- `u` is past `t` and replaces it
      rw [hut, if_pos rfl, Except.ok.injEq] at hcur
      subst hcur
      obtain ⟨s, hs, rfl, hall⟩ := foldlM_pick_stamps op hu hts' hrest
      refine ⟨s, List.mem_cons_of_mem _ hs, rfl, fun w hw => ?_⟩
      rcases List.mem_cons.1 hw with rfl | hw
      · exact holds_compare_of_holds op hut (hall u List.mem_cons_self)
      · exact hall w hw

theorem foldlM_pick_extreme (op : Comparison) {t : Stamp} {ts : List Stamp}
    (hts : ∀ u ∈ t :: ts, u.offset = none) {r : Option Value}
    (hr : some <$> (ts.map Value.stamp).foldlM (pick op) (.stamp t) = .ok r) :
    ∃ s ∈ t :: ts, r = some (.stamp s) ∧ ∀ u ∈ t :: ts, op.holds (compare u.utc s.utc) = false := by
  cases hm : (ts.map Value.stamp).foldlM (pick op) (.stamp t) with
  | error f => rw [hm] at hr; cases hr
  | ok m =>
    rw [hm] at hr
    cases hr
    obtain ⟨s, hs, rfl, hall⟩ :=
      foldlM_pick_stamps op (hts t List.mem_cons_self) (fun u hu => hts u (List.mem_cons_of_mem t hu)) hm
    exact ⟨s, hs, rfl, hall⟩

theorem pyMin_stamps {ts : List Stamp} (hts : ∀ u ∈ ts, u.offset = none) {r : Option Value}
    (hr : Value.pyMin (ts.map Value.stamp) = .ok r) :
    ∃ o, r = o.map Value.stamp ∧ FirstBy (fun s u => s.utc ≤ u.utc) ts o := by
  cases ts with
  | nil =>
    cases hr
    exact ⟨none, rfl, by simp [FirstBy]⟩
  | cons t ts =>
    obtain ⟨s, hs, rfl, hall⟩ := foldlM_pick_extreme .less hts hr
    refine ⟨some s, rfl, by simp, fun s' hs' => ?_⟩
    rw [Option.mem_def, Option.some.injEq] at hs'
    subst hs'
    exact ⟨hs, fun u hu => by simpa [Comparison.holds, compare_lt_iff_lt] using hall u hu⟩

theorem pyMax_stamps {ts : List Stamp} (hts : ∀ u ∈ ts, u.offset = none) {r : Option Value}
    (hr : Value.pyMax (ts.map Value.stamp) = .ok r) :
    ∃ o, r = o.map Value.stamp ∧ FirstBy (fun s u => u.utc ≤ s.utc) ts o := by
  cases ts with
  | nil =>
    cases hr
    exact ⟨none, rfl, by simp [FirstBy]⟩
  | cons t ts =>
    obtain ⟨s, hs, rfl, hall⟩ := foldlM_pick_extreme .greater hts hr
    refine ⟨some s, rfl, by simp, fun s' hs' => ?_⟩
    rw [Option.mem_def, Option.some.injEq] at hs'
    subst hs'
    exact ⟨hs, fun u hu => by simpa [Comparison.holds, compare_gt_iff_gt] using hall u hu⟩

/-- The range of creation values, when each is a naive stamp or null: the earliest and the
latest stamp, nothing when no document has one. -/
theorem createdRange_spec (hsel : c.select cond = .ok M)
    (hcreated : ∀ d ∈ M, ∀ v, d.get? "createdAt" = some v →
      v = .null ∨ ∃ t : Stamp, v = .stamp t ∧ t.offset = none)
    {range : Option Value × Option Value} (hr : c.createdRange cond = .ok range) :
    ∃ lo hi, range = (lo.map Value.stamp, hi.map Value.stamp) ∧
      FirstBy (fun s u => s.utc ≤ u.utc) (createdStamps M) lo ∧
      FirstBy (fun s u => u.utc ≤ s.utc) (createdStamps M) hi := by
  have hnaive : ∀ u ∈ createdStamps M, u.offset = none := fun u hu => by
    obtain ⟨d, hd, hdu⟩ := List.mem_filterMap.1 hu
    unfold createdStamp? at hdu
    cases h : d.get? "createdAt" with
    | none => simp [h] at hdu
    | some v =>
      rcases hcreated d hd v h with rfl | ⟨t, rfl, ht⟩
      · simp [h] at hdu
      · simp only [h, Option.some.injEq] at hdu
        exact hdu ▸ ht
  unfold createdRange at hr
  rw [hsel] at hr
  simp only [bind, Except.bind] at hr
  generalize hV : List.filterMap _ M = vals at hr
  have hvals : vals = (createdStamps M).map Value.stamp := by
    rw [← hV, createdStamps, List.map_filterMap]
    refine List.filterMap_congr fun d hd => ?_
    unfold createdStamp?
    cases h : d.get? "createdAt" with
    | none => rfl
    | some v =>
      rcases hcreated d hd v h with rfl | ⟨t, rfl, -⟩ <;> rfl
  subst hvals
  split at hr
  · cases hr
  · rename_i lo' hlo
    split at hr
    · cases hr
    · rename_i hi' hhi
      simp only [pure, Except.pure, Except.ok.injEq] at hr
      subst hr
      obtain ⟨lo, rfl, hfirst⟩ := pyMin_stamps hnaive hlo
      obtain ⟨hi, rfl, hlast⟩ := pyMax_stamps hnaive hhi
      exact ⟨lo, hi, rfl, hfirst, hlast⟩

end Collection

/-! ### Events shown newest first -/

section
variable {α : Type} {r : Record} {k other : String} {read : Value → Except Issue.Kind α}

theorem Form.read_eq_of_required {a : α} (h : Form.required r k other read = .ok a) {x : Value}
    (hx : r.get? k = some x) : read x = .ok a := by
  unfold Form.required Form.lookup at h
  rw [hx] at h
  dsimp only at h
  split at h
  · rename_i a' ha'
    cases h
    exact ha'
  · cases h

end

theorem Stamp.eq_of_utc_eq {s t : Stamp} (hs : s.offset = none) (ht : t.offset = none)
    (h : s.utc = t.utc) : s = t := by
  cases s
  cases t
  simp_all [Stamp.utc]

namespace EventView

theorem check_createdAt {r : Record} {v : EventView} {t : Stamp} (h : check r = .ok v)
    (ht : r.get? "createdAt" = some (.stamp t)) : v.createdAt = t := by
  simp only [check, bind_eq_ok] at h
  obtain ⟨_, _, _, _, _, _, _, _, _, _, _, _, _, _, _, _, _, _, c, hc, _, _, hv⟩ := h
  simp only [pure, Except.pure, Except.ok.injEq] at hv
  subst hv
  have hread := Form.read_eq_of_required hc ht
  simp only [StampReading.read, Except.ok.injEq] at hread
  exact hread.symm

theorem ofDocument_createdAt {d : Record} {v : EventView} {t : Stamp} (h : ofDocument d = .ok v)
    (ht : d.get? "createdAt" = some (.stamp t)) : v.createdAt = t := by
  unfold ofDocument at h
  cases hid : d.get? "_id" with
  | none =>
    rw [hid] at h
    cases h
  | some oid =>
    rw [hid] at h
    dsimp only at h
    rw [mapError_eq_ok] at h
    refine check_createdAt h ?_
    rw [get?_readBack]
    simpa using ht

theorem mapM_ofDocument_createdAt : ∀ {docs : List Record} {views : List EventView},
    docs.mapM ofDocument = .ok views →
    (∀ d ∈ docs, ∃ t : Stamp, d.get? "createdAt" = some (.stamp t)) →
    views.map (·.createdAt) = Collection.createdStamps docs
  | [], views, h, _ => by
    cases h
    rfl
  | d :: docs, views, h, hc => by
    obtain ⟨v, vs, hv, hvs, rfl⟩ := mapM_cons_eq_ok.1 h
    obtain ⟨t, ht⟩ := hc d List.mem_cons_self
    have hrest := mapM_ofDocument_createdAt hvs fun d' hd' => hc d' (List.mem_cons_of_mem d hd')
    have hhead : Collection.createdStamp? d = some t := by simp [Collection.createdStamp?, ht]
    simp only [List.map_cons, hrest, ofDocument_createdAt hv ht, Collection.createdStamps,
      List.filterMap_cons_some hhead]

end EventView

theorem utc_le_of_notAfter {a b : Record} {s t : Stamp} (ha : a.get? "createdAt" = some (.stamp s))
    (hb : b.get? "createdAt" = some (.stamp t)) (h : NotAfterByKeys newestFirst a b) :
    t.utc ≤ s.utc := by
  simp only [newestFirst, NotAfterByKeys] at h
  have hfirst := h.1
  simp [SortKey.before, Record.keyValue_sortPath _ (show "createdAt" ∈ sortPaths by simp [sortPaths]),
    ha, hb, Value.storeBefore, Value.kindBefore] at hfirst
  exact hfirst

theorem createdStamps_newest_first {ys : List Record} (hread : ∀ d ∈ ys, ReadableEvent d)
    (hsorted : ys.Pairwise (NotAfterByKeys newestFirst)) {lo hi : Option Stamp}
    (hlo : FirstBy (fun s u => s.utc ≤ u.utc) (Collection.createdStamps ys) lo)
    (hhi : FirstBy (fun s u => u.utc ≤ s.utc) (Collection.createdStamps ys) hi) :
    (Collection.createdStamps ys).head? = hi ∧ (Collection.createdStamps ys).getLast? = lo := by
  have hnaive : ∀ s ∈ Collection.createdStamps ys, s.offset = none := fun s hs => by
    obtain ⟨d, hd, hds⟩ := List.mem_filterMap.1 hs
    obtain ⟨t, ht, hoff⟩ := (hread d hd).createdAt
    simp only [Collection.createdStamp?, ht, Option.some.injEq] at hds
    exact hds ▸ hoff
  -- the stamps are in order latest first, and two stamps of one instant are one stamp
  have hstamps : (Collection.createdStamps ys).Pairwise (fun s u => u.utc ≤ s.utc) := by
    refine hsorted.filterMap _ fun a b hab s hs u hu => ?_
    unfold Collection.createdStamp? at hs hu
    split at hs <;> rename_i ha
    · split at hu <;> rename_i hb
      · cases hs
        cases hu
        exact utc_le_of_notAfter ha hb hab
      · cases hu
    · cases hs
  have hanti : ∀ s ∈ Collection.createdStamps ys, ∀ u ∈ Collection.createdStamps ys,
      s.utc ≤ u.utc → u.utc ≤ s.utc → s = u := fun s hs u hu h₁ h₂ =>
    Stamp.eq_of_utc_eq (hnaive s hs) (hnaive u hu) (le_antisymm h₁ h₂)
  refine ⟨hhi.head?_eq hstamps fun s hs u hu h₁ h₂ => hanti s hs u hu h₂ h₁, ?_⟩
  rw [← List.head?_reverse]
  exact (hlo.perm (List.reverse_perm _).symm).head?_eq (List.pairwise_reverse.2 hstamps)
    fun s hs u hu => hanti s (List.mem_reverse.1 hs) u (List.mem_reverse.1 hu)

/-! ### The listing -/

namespace Collection

variable {c : Collection} {cond : Cond} {M : List Record}

theorem select_of_count {n : Nat} (h : c.count cond = .ok n) :
    ∃ M, c.select cond = .ok M ∧ n = M.length := by
  unfold count at h
  cases hsel : c.select cond with
  | error e =>
    rw [hsel] at h
    cases h
  | ok M =>
    rw [hsel] at h
    exact ⟨M, rfl, (Except.ok.inj h).symm⟩

theorem find_spec (hsel : c.select cond = .ok M) {keys : List SortKey} {skip limit : Nat}
    {docs : List Record} (h : c.find cond keys skip limit = .ok docs) :
    ∃ ys, order keys M = .ok ys ∧
      docs = if limit = 0 then ys.drop skip else (ys.drop skip).take limit := by
  unfold find at h
  rw [hsel, bind_eq_ok] at h
  obtain ⟨M', hM', h⟩ := h
  cases hM'
  rw [bind_eq_ok] at h
  obtain ⟨ys, hys, h⟩ := h
  exact ⟨ys, hys, (Except.ok.inj h).symm⟩

end Collection

namespace Summary

theorem ofReads_eq {counts : List (Value × Nat)} {users : Nat}
    {range : Option Value × Option Value} {S : Summary} (h : ofReads counts users range = .ok S) :
    ∃ lo hi, rangeEnd "oldest" range.1 = .ok lo ∧ rangeEnd "newest" range.2 = .ok hi ∧
      S = { errorCount := countOf counts .error, warnCount := countOf counts .warn,
            infoCount := countOf counts .info, debugCount := countOf counts .debug,
            uniqueUsers := users, oldest := lo, newest := hi } := by
  simp only [ofReads, bind_eq_ok] at h
  obtain ⟨lo, hlo, hi, hhi, hS⟩ := h
  exact ⟨lo, hi, hlo, hhi, (Except.ok.inj hS).symm⟩

theorem rangeEnd_map_stamp (name : String) (o : Option Stamp) :
    rangeEnd name (o.map Value.stamp) = .ok o := by
  cases o <;> rfl

end Summary

theorem Pagination.total_of_build {total page size : Int} {pg : Pagination}
    (h : build total page size = .ok pg) : pg.total = total := by
  simp only [build, bind_eq_ok, pure, Except.pure, Except.ok.injEq] at h
  obtain ⟨n, -, rfl⟩ := h
  rfl

theorem Db.Quiet.onlyReads {db : Db} (h : db.Quiet) : db.OnlyReads fun _ => True :=
  ⟨fun e he => by simp [h.idle] at he, trivial⟩

namespace Service

open Collection

theorem query_reads {sv : Service} {q : Listing} {x : Bool} {p : LogsPage}
    (hsv : sv.db.OnlyReads fun _ => True) (hp : (query q x).run' sv = .ok p) :
    ∃ docs total counts users range,
      sv.db.coll.find (q.toFilters.cond x) q.sortKeys ((q.page - 1) * q.pageSize) q.pageSize =
        .ok docs ∧
      sv.db.coll.count (q.toFilters.cond x) = .ok total ∧
      sv.db.coll.levelCounts (q.toFilters.cond x) = .ok counts ∧
      sv.db.coll.distinctCount (q.toFilters.cond x) "userId" = .ok users ∧
      sv.db.coll.createdRange (q.toFilters.cond x) = .ok range ∧
      Summary.ofReads counts users range = .ok p.summary ∧
      docs.mapM EventView.ofDocument = .ok p.events ∧
      Pagination.build total q.page q.pageSize = .ok p.pagination := by
  unfold query at hp
  rw [onDb_bind_run'] at hp
  generalize hG : Db.gather _ sv.db = G at hp
  have hcoll : G.2.coll = sv.db.coll := by
    rw [← hG]
    refine (Db.OnlyReads.gather Db.plansKeep_true hsv fun w hw => ?_).2
    simp only [List.mem_cons, List.not_mem_nil, or_false] at hw
    rcases hw with rfl | rfl | rfl <;> trivial
  obtain ⟨failed, db'⟩ := G
  rw [get_bind_run'] at hp
  dsimp only at hp hcoll
  rw [hcoll] at hp
  cases failed
  · rw [if_neg Bool.false_ne_true] at hp
    generalize hR : (sv.db.coll.find _ _ _ _ >>= _ : Except Failure _) = R at hp
    cases R with
    | error f => cases hp
    | ok v =>
      obtain ⟨docs, total, summary⟩ := v
      change (do
          let events ← List.mapM EventView.ofDocument docs
          let pagination ← Pagination.build total q.page q.pageSize
          pure { events := events, pagination := pagination, summary := summary } :
            Except Failure LogsPage) = .ok p at hp
      simp only [bind_eq_ok] at hR hp
      obtain ⟨docs', hfind, total', hcount, summary', ⟨counts, hcounts, users, husers, range,
        hrange, hsummary⟩, hpure⟩ := hR
      cases hpure
      obtain ⟨events, hevents, pagination, hpagination, hpure⟩ := hp
      cases hpure
      exact ⟨docs, total, counts, users, range, hfind, hcount, hcounts, husers, hrange, hsummary,
        hevents, hpagination⟩
  · cases hp

end Service

section
open Collection

/-- The summary of a listing describes the documents its condition selects: their counts per
level, their distinct users and their creation range, and newest first the first and last
events carry the newest and oldest stamps. -/
theorem listing_summary_consistent (sv : Service) (q : Listing) (x : Bool) {p : LogsPage}
    (hsv : sv.db.OnlyReads fun _ => True) (hp : (Service.query q x).run' sv = .ok p) :
    ∃ M, sv.db.coll.select (q.toFilters.cond x) = .ok M ∧ p.pagination.total = M.length ∧
      ((∀ d ∈ M, ((d.get? "level").getD .null).Sortable) →
        p.summary.errorCount = (M.filter (·.hasLevel .error)).length ∧
        p.summary.warnCount = (M.filter (·.hasLevel .warn)).length ∧
        p.summary.infoCount = (M.filter (·.hasLevel .info)).length ∧
        p.summary.debugCount = (M.filter (·.hasLevel .debug)).length ∧
        p.summary.errorCount + p.summary.warnCount + p.summary.infoCount +
          p.summary.debugCount ≤ M.length ∧
        (p.summary.errorCount + p.summary.warnCount + p.summary.infoCount +
          p.summary.debugCount = M.length ↔ ∀ d ∈ M, ∃ l : Level, d.hasLevel l = true)) ∧
      ((∀ d ∈ M, ∀ v, d.get? "userId" = some v → v.IsScalar) →
        ∃ reps : List Value, (∀ r ∈ reps, r ≠ .null ∧ ∃ d ∈ M, d.get? "userId" = some r) ∧
          reps.Pairwise (fun a b => Value.sameEq a b = false) ∧
          (∀ d ∈ M, ∀ u, d.get? "userId" = some u → u ≠ .null →
            ∃ r ∈ reps, Value.sameEq r u = true) ∧
          p.summary.uniqueUsers = reps.length) ∧
      ((∀ d ∈ M, ∀ v, d.get? "createdAt" = some v →
          v = .null ∨ ∃ t : Stamp, v = .stamp t ∧ t.offset = none) →
        FirstBy (fun s u => s.utc ≤ u.utc) (createdStamps M) p.summary.oldest ∧
        FirstBy (fun s u => u.utc ≤ s.utc) (createdStamps M) p.summary.newest) ∧
      (q.sortKeys = newestFirst → q.page ≤ 1 → M.length ≤ q.pageSize →
        (∀ d ∈ M, ReadableEvent d) →
        p.events.head?.map (·.createdAt) = p.summary.newest ∧
        p.events.getLast?.map (·.createdAt) = p.summary.oldest) := by
  obtain ⟨docs, total, counts, users, range, hfind, hcount, hcounts, husers, hrange, hsummary,
    hevents, hpagination⟩ := Service.query_reads hsv hp
  obtain ⟨M, hsel, rfl⟩ := select_of_count hcount
  obtain ⟨lo, hi, hlo, hhi, hS⟩ := Summary.ofReads_eq hsummary
  have hends : (∀ d ∈ M, ∀ v, d.get? "createdAt" = some v →
      v = .null ∨ ∃ t : Stamp, v = .stamp t ∧ t.offset = none) →
      FirstBy (fun s u => s.utc ≤ u.utc) (createdStamps M) p.summary.oldest ∧
      FirstBy (fun s u => u.utc ≤ s.utc) (createdStamps M) p.summary.newest := fun hcreated => by
    obtain ⟨o, n, rfl, hfirst, hlast⟩ := createdRange_spec hsel hcreated hrange
    rw [Summary.rangeEnd_map_stamp, Except.ok.injEq] at hlo hhi
    rw [hS, ← hlo, ← hhi]
    exact ⟨hfirst, hlast⟩
  refine ⟨M, hsel, Pagination.total_of_build hpagination, fun hlevel => ?levels,
    fun hscalar => ?users, hends, fun hkeys hpage hfits hread => ?events⟩
  case levels =>
    obtain ⟨counts', hcounts', hcountOf⟩ := levelCounts_countOf hsel hlevel
    rw [hcounts, Except.ok.injEq] at hcounts'
    subst hcounts'
    rw [hS]
    dsimp only
    rw [hcountOf, hcountOf, hcountOf, hcountOf]
    exact ⟨rfl, rfl, rfl, rfl, Record.levelCounts_le M⟩
  case users =>
    obtain ⟨reps, hseen, happart, hcovers, hn⟩ := distinctCount_spec hsel hscalar husers
    exact ⟨reps, hseen, happart, hcovers, by rw [hS, hn]⟩
  case events =>
    obtain ⟨hfirst, hlast⟩ := hends fun d hd v hv => by
      obtain ⟨t, ht, hoff⟩ := (hread d hd).createdAt
      rw [ht, Option.some.injEq] at hv
      exact .inr ⟨t, hv.symm, hoff⟩
    obtain ⟨ys, hord, hperm, hsorted⟩ := order_spec q.sortKeys M fun d hd => (hread d hd).fits q
    obtain ⟨ys', hord', hdocs⟩ := find_spec hsel hfind
    rw [hord, Except.ok.injEq] at hord'
    subst hord'
    have hskip : (q.page - 1) * q.pageSize = 0 := by
      rw [Nat.sub_eq_zero_of_le hpage, Nat.zero_mul]
    have hall : docs = ys := by
      rw [hdocs, hskip, List.drop_zero]
      split
      · rfl
      · exact List.take_of_length_le (hperm.length_eq ▸ hfits)
    subst hall
    have hread' : ∀ d ∈ docs, ReadableEvent d := fun d hd => hread d (hperm.mem_iff.1 hd)
    have hshown : p.events.map (·.createdAt) = createdStamps docs :=
      EventView.mapM_ofDocument_createdAt hevents fun d hd => by
        obtain ⟨t, ht, -⟩ := (hread' d hd).createdAt
        exact ⟨t, ht⟩
    have hstamps : (createdStamps docs).Perm (createdStamps M) := hperm.filterMap _
    rw [hkeys] at hsorted
    obtain ⟨hhead, hlast'⟩ := createdStamps_newest_first hread' hsorted
      (hfirst.perm hstamps.symm) (hlast.perm hstamps.symm)
    rw [← List.head?_map, ← List.getLast?_map, hshown]
    exact ⟨hhead, hlast'⟩

theorem Service.Listable.query_answers {sv : Service} (h : sv.Listable) (q : Listing) (x : Bool)
    (hs : 0 < q.pageSize) (hs' : q.pageSize < 2 ^ 53) :
    ∃ p, (Service.query q x).run' sv = .ok p := by
  have hM : ∀ d ∈ sv.db.coll.docs.filter (q.toFilters.cond x).selects, ReadableEvent d :=
    fun d hd => (h.listed d (List.mem_filter.1 hd).1).readable
  obtain ⟨ys, hord, hperm, -⟩ := order_spec q.sortKeys _ fun d hd => (hM d hd).fits q
  obtain ⟨views, hviews⟩ := mapM_eq_ok_of_forall _ ys fun d hd =>
    (h.listed d (List.mem_filter.1 (hperm.mem_iff.1 hd)).1).view
  obtain ⟨p, hp, -⟩ := Service.query_page sv q x h.quiet (fun d hd => (h.listed d hd).readable)
    h.small hs hs' hord hviews
  exact ⟨p, hp⟩

/-- The default listing of three events a minute apart. -/
theorem three_events_summary :
    ∃ p, threeEvents.db.OnlyReads (fun _ => True) ∧
      (Service.query {} false).run' threeEvents = .ok p ∧
      ∃ M, threeEvents.db.coll.select (({} : Listing).toFilters.cond false) = .ok M ∧ p.pagination.total = M.length ∧
        ((∀ d ∈ M, ((d.get? "level").getD .null).Sortable) →
          p.summary.errorCount = (M.filter (·.hasLevel .error)).length ∧
          p.summary.warnCount = (M.filter (·.hasLevel .warn)).length ∧
          p.summary.infoCount = (M.filter (·.hasLevel .info)).length ∧
          p.summary.debugCount = (M.filter (·.hasLevel .debug)).length ∧
          p.summary.errorCount + p.summary.warnCount + p.summary.infoCount +
            p.summary.debugCount ≤ M.length ∧
          (p.summary.errorCount + p.summary.warnCount + p.summary.infoCount +
            p.summary.debugCount = M.length ↔ ∀ d ∈ M, ∃ l : Level, d.hasLevel l = true)) ∧
        ((∀ d ∈ M, ∀ v, d.get? "userId" = some v → v.IsScalar) →
          ∃ reps : List Value, (∀ r ∈ reps, r ≠ .null ∧ ∃ d ∈ M, d.get? "userId" = some r) ∧
            reps.Pairwise (fun a b => Value.sameEq a b = false) ∧
            (∀ d ∈ M, ∀ u, d.get? "userId" = some u → u ≠ .null →
              ∃ r ∈ reps, Value.sameEq r u = true) ∧
            p.summary.uniqueUsers = reps.length) ∧
        ((∀ d ∈ M, ∀ v, d.get? "createdAt" = some v →
            v = .null ∨ ∃ t : Stamp, v = .stamp t ∧ t.offset = none) →
          FirstBy (fun s u => s.utc ≤ u.utc) (createdStamps M) p.summary.oldest ∧
          FirstBy (fun s u => u.utc ≤ s.utc) (createdStamps M) p.summary.newest) ∧
        (({} : Listing).sortKeys = newestFirst → ({} : Listing).page ≤ 1 → M.length ≤ ({} : Listing).pageSize →
          (∀ d ∈ M, ReadableEvent d) →
          p.events.head?.map (·.createdAt) = p.summary.newest ∧
          p.events.getLast?.map (·.createdAt) = p.summary.oldest) := by
  obtain ⟨p, hp⟩ := threeEvents_listable.query_answers {} false (by decide) (by decide)
  have hsv := threeEvents_listable.quiet.onlyReads
  exact ⟨p, hsv, hp, listing_summary_consistent threeEvents {} false hsv hp⟩

end

def twoUserKinds : Service where
  db := { coll := { entries := [
    (.int 1, [("_id", .int 1), ("level", .str "info"), ("userId", .int 1),
      ("createdAt", .stamp ⟨1704067200000000, none⟩)]),
    (.int 2, [("_id", .int 2), ("level", .str "info"), ("userId", .bool true),
      ("createdAt", .stamp ⟨1704067200000000, none⟩)])], nextId := 3 } }
  clock := ⟨1717200000000000, none⟩

/-- The user ids `1` and `true` are two values, but the store's containers take them as equal:
the summary counts one user. -/
theorem listing_counts_one_and_true_once :
    twoUserKinds.db.coll.docs.filterMap (·.get? "userId") = [.int 1, .bool true] ∧
      ∃ p, (Service.query { page := 2 } false).run' twoUserKinds = .ok p ∧
        p.summary.uniqueUsers = 1 := by
  refine ⟨rfl, ?_⟩
  have hsel : twoUserKinds.db.coll.select (({ page := 2 } : Listing).toFilters.cond false) =
      .ok twoUserKinds.db.coll.docs := rfl
  have hmem : ∀ d ∈ twoUserKinds.db.coll.docs, d.get? "createdAt" =
      some (.stamp ⟨1704067200000000, none⟩) ∧ (d.get? "_id" = some (.int 1) ∨
        d.get? "_id" = some (.int 2)) ∧ d.get? "level" = some (.str "info") := by
    intro d hd
    simp only [twoUserKinds, Collection.docs, List.map, List.mem_cons, List.not_mem_nil,
      or_false] at hd
    rcases hd with rfl | rfl
    · exact ⟨rfl, .inl rfl, rfl⟩
    · exact ⟨rfl, .inr rfl, rfl⟩
  obtain ⟨ys, hord, hperm, -⟩ := order_spec ({ page := 2 } : Listing).sortKeys
    twoUserKinds.db.coll.docs fun d hd k hk => by
      obtain ⟨hcreated, hid, -⟩ := hmem d hd
      simp only [Listing.sortKeys, List.mem_cons, List.not_mem_nil, or_false] at hk
      rcases hk with rfl | rfl
      · simp [SortKey.Fits, Record.keyValue_sortPath d (show "createdAt" ∈ sortPaths by
          simp [sortPaths]), hcreated, Value.Sortable]
      · rcases hid with hid | hid <;>
          simp [SortKey.Fits, Record.keyValue_sortPath d (show "_id" ∈ sortPaths by
            simp [sortPaths]), hid, Value.Sortable]
  have hfind := Collection.find_eq hsel hord ((2 - 1) * 50) (show (50 : Nat) ≠ 0 by decide)
  rw [List.drop_eq_nil_of_le (by rw [hperm.length_eq]; decide), List.take_nil] at hfind
  obtain ⟨counts, hcounts⟩ := Collection.levelCounts_ok hsel fun d hd => by
    rw [(hmem d hd).2.2]
    trivial
  have husers : twoUserKinds.db.coll.distinctCount
      (({ page := 2 } : Listing).toFilters.cond false) "userId" = .ok 1 := by
    unfold Collection.distinctCount Collection.distinct
    rw [hsel]
    simp only [atPath_sortPath _ (show "userId" ∈ sortPaths by simp [sortPaths, textPaths])]
    rfl
  obtain ⟨lo, hi, hrange, hlo, hhi⟩ := Collection.createdRange_ok hsel fun d hd =>
    ⟨_, (hmem d hd).1, rfl⟩
  obtain ⟨summary, hsummary⟩ := Summary.ofReads_ok counts 1 (lo, hi) hlo hhi
  obtain ⟨_, _, -, -, hS⟩ := Summary.ofReads_eq hsummary
  rw [Service.query_run' ⟨(fun _ _ hp => by cases hp), rfl⟩ hfind (Collection.count_eq hsel)
    hcounts husers hrange hsummary]
  refine ⟨_, rfl, ?_⟩
  rw [hS]

end AuditTrail
