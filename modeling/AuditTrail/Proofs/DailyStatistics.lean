import AuditTrail.Proofs.CreationWindows
import AuditTrail.Proofs.DayTables

/-!
# Daily statistics

When every level is null or a text, the store's sort puts each day's keys in one block and each
level in one run, so the table lists the window's days in calendar order with their counts.
-/

namespace AuditTrail

open Collection Sorting

/-! ### Keys of the daily counts -/

def LevelKeyed (k : Date × Option Value) : Prop := ∃ v, k.2 = some v ∧ v.IsTextOrNull

def levelRank (v : Value) : List Int := (v.rank : Int) :: (Value.codes v).map (fun n : Nat => (n : Int))

/-- The numbers the store orders a key of the daily counts by, when its level is null or a text:
its year, month and day, then its level's. -/
def dayRank (k : Date × Option Value) : List Int := k.1.fields ++ levelRank (k.2.getD .null)

def dayRankBefore (a b : Date × Option Value) : Bool := compare (dayRank a) (dayRank b) == .lt

theorem strictWeakOn_dayRankBefore : StrictWeakOn dayRankBefore LevelKeyed :=
  (StrictWeakOn.of_cmp (S := fun _ => True) compare).comap dayRank |>.mono
    (fun _ _ => trivial) fun _ _ _ _ => rfl

theorem tied_dayRankBefore (a b : Date × Option Value) :
    tied dayRankBefore a b = decide (dayRank a = dayRank b) := by
  have hswap : compare (dayRank b) (dayRank a) = (compare (dayRank a) (dayRank b)).swap :=
    Std.OrientedCmp.eq_swap
  by_cases h : dayRank a = dayRank b
  · simp [tied, dayRankBefore, h]
  · have hne : compare (dayRank a) (dayRank b) ≠ .eq := fun he =>
      h (Std.LawfulEqCmp.eq_of_compare he)
    simp only [tied, dayRankBefore, decide_eq_false h, hswap]
    cases hc : compare (dayRank a) (dayRank b) <;> simp_all

theorem Date.fields_injective {a b : Date} (h : a.fields = b.fields) : a = b := by
  obtain ⟨y, m, d⟩ := a
  obtain ⟨y', m', d'⟩ := b
  simp only [Date.fields, List.cons.injEq, Int.natCast_inj, and_true] at h
  obtain ⟨rfl, rfl, rfl⟩ := h
  rfl

theorem dayRank_eq_iff {a b : Date × Option Value} :
    dayRank a = dayRank b ↔
      a.1 = b.1 ∧ levelRank (a.2.getD .null) = levelRank (b.2.getD .null) := by
  constructor
  · intro h
    obtain ⟨hf, hl⟩ := List.append_inj h (by simp [Date.fields])
    exact ⟨Date.fields_injective hf, hl⟩
  · rintro ⟨hd, hl⟩
    rw [dayRank, dayRank, hd, hl]

theorem castCodes_inj {s t : String} :
    s.toList.map ((fun n : Nat => (n : Int)) ∘ Surrogate.code) =
      t.toList.map ((fun n : Nat => (n : Int)) ∘ Surrogate.code) ↔ s = t :=
  (List.map_inj_right fun _ _ h => Surrogate.code_injective (Int.ofNat_inj.1 h)).trans
    String.toList_inj

theorem levelRank_eq_str_iff {v : Value} (hv : v.IsTextOrNull) (s : String) :
    levelRank v = levelRank (.str s) ↔ v.textOf? = some s := by
  cases v <;> simp_all [Value.IsTextOrNull, levelRank, Value.rank, Value.codes, Value.textOf?,
    castCodes_inj]

theorem textOf?_eq_of_levelRank_eq {v w : Value} (hv : v.IsTextOrNull) (hw : w.IsTextOrNull)
    (h : levelRank v = levelRank w) : v.textOf? = w.textOf? := by
  cases v <;> cases w <;> simp_all [Value.IsTextOrNull, levelRank, Value.rank, Value.codes,
    Value.textOf?, castCodes_inj]

theorem sameEq_dayKey {a b : Date × Option Value} (ha : LevelKeyed a) (hb : LevelKeyed b) :
    Value.sameEq (dayKey a) (dayKey b) = decide (dayRank a = dayRank b) := by
  obtain ⟨⟨y, m, d⟩, la⟩ := a
  obtain ⟨⟨y', m', d'⟩, lb⟩ := b
  obtain ⟨x, rfl, hx⟩ := ha
  obtain ⟨z, rfl, hz⟩ := hb
  cases x <;> cases z <;> simp_all [Value.IsTextOrNull, dayKey, dayRank, levelRank, Date.fields,
    Value.sameEq, Value.looseEq, Value.sameFields, Record.get?, Value.bothNaN, Value.looseNumber?,
    Exact.same, Value.rank, Value.codes, Value.textOf?, Exact.cmp, castCodes_inj,
    Bool.beq_eq_decide_eq]

theorem codes_eq_of_sameEq {x z : Value} (hx : x.IsTextOrNull) (hz : z.IsTextOrNull)
    (h : Value.sameEq x z = true) : Value.codes x = Value.codes z := by
  cases x <;> cases z <;> simp_all [Value.IsTextOrNull, Value.sameEq, Value.bothNaN,
    Value.looseEq, Value.looseNumber?, Value.codes, Value.textOf?]

theorem sortLtFields_level {x z : Value} (hx : x.IsTextOrNull) (hz : z.IsTextOrNull) :
    Value.sortLtFields [("level", x)] [("level", z)] =
      .ok (compare (levelRank x) (levelRank z) == .lt) := by
  rw [levelRank, levelRank, List.compare_cons_cons, compare_map_natCast, Date.compare_natCast]
  by_cases hr : x.rank = z.rank
  · by_cases hs : Value.sameEq x z = true
    · simp [Value.sortLtFields, hr, hs, codes_eq_of_sameEq hx hz hs]
    · -- two texts of one kind: the store compares their codes
      have h15 : x.rank = 15 := by
        cases x <;> cases z <;> simp_all [Value.IsTextOrNull, Value.sameEq, Value.bothNaN,
          Value.looseEq, Value.rank]
      rw [Value.sortLtFields, if_neg (by simp [hr]), if_neg (by simp), if_neg hs,
        Value.sortLt_eq_ok hx.sortable hz.sortable, Value.storeBefore, if_pos hr,
        Value.kindBefore_of_rank_fifteen hx.sortable hz.sortable h15 (hr ▸ h15)]
      simp [hr]
  · rcases Nat.lt_or_gt_of_ne hr with hlt | hgt
    · simp [Value.sortLtFields, hr, hlt, compare_lt_iff_lt.2 hlt]
    · simp [Value.sortLtFields, hr, Nat.not_lt.2 hgt.le, compare_gt_iff_gt.2 hgt]

theorem sortLt_dayKey_rank {a b : Date × Option Value} (ha : LevelKeyed a) (hb : LevelKeyed b) :
    Value.sortLt (dayKey a) (dayKey b) = .ok (dayRankBefore a b) := by
  obtain ⟨⟨y, m, d⟩, la⟩ := a
  obtain ⟨⟨y', m', d'⟩, lb⟩ := b
  obtain ⟨x, rfl, hx⟩ := ha
  obtain ⟨z, rfl, hz⟩ := hb
  have hrank : ∀ v : Value, v.IsTextOrNull → Value.sortRank v = .ok v.rank := fun v hv => by
    cases v <;> simp_all [Value.IsTextOrNull, Value.sortRank]
  have hint : ∀ i : Int, Value.sortRank (.int i) = .ok 10 := fun _ => rfl
  have hrec : ∀ fs : List (String × Value), Value.sortRank (.record fs) = .ok 20 := fun _ => rfl
  have hfields : Value.sortLt (dayKey ((⟨y, m, d⟩ : Date), some x))
      (dayKey ((⟨y', m', d'⟩ : Date), some z)) =
      Value.sortLtFields [("year", .int y), ("month", .int m), ("day", .int d), ("level", x)]
        [("year", .int y'), ("month", .int m'), ("day", .int d'), ("level", z)] := by
    simp [dayKey, Value.sortLt, hint, hrec, hrank x hx, hrank z hz, bind, Except.bind, pure,
      Except.pure, List.mapM_cons]
  rw [hfields, sortLtFields_int, sortLtFields_int, sortLtFields_int, sortLtFields_level hx hz,
    dayRankBefore, dayRank, dayRank]
  simp only [Date.fields, Option.getD_some, List.cons_append, List.nil_append,
    List.compare_cons_cons, then_beq_lt]
  split_ifs <;> rfl

/-! ### Days and levels among the sorted keys -/

def dayBefore (a b : Date × Option Value) : Bool := a.1.cmp b.1 == .lt

theorem Date.cmp_self (a : Date) : a.cmp a = .eq := Date.cmp_eq_eq_iff.2 rfl

theorem Date.ne_of_cmp_lt {a b : Date} (h : a.cmp b = .lt) : a ≠ b := by
  rintro rfl
  rw [Date.cmp_self] at h
  cases h

theorem strictWeakOn_dayBefore : StrictWeakOn dayBefore (fun _ => True) :=
  (StrictWeakOn.of_cmp (S := fun _ => True) compare).comap
    (fun k : Date × Option Value => k.1.fields) |>.mono (fun _ _ => trivial)
    fun a b _ _ => by simp [dayBefore, Date.cmp_eq_compare_fields]

theorem tied_dayBefore (a b : Date × Option Value) :
    tied dayBefore a b = decide (a.1 = b.1) := by
  by_cases h : a.1 = b.1
  · simp [tied, dayBefore, h, Date.cmp_self]
  · simp only [tied, dayBefore, decide_eq_false h]
    cases hc : a.1.cmp b.1 with
    | lt => rfl
    | eq => exact absurd (Date.cmp_eq_eq_iff.1 hc) h
    | gt => simp [Date.cmp_eq_gt_iff.1 hc]

theorem dayBefore_eq_false {a b : Date × Option Value} (h : dayRankBefore b a = false) :
    dayBefore b a = false := by
  cases hd : dayBefore b a
  · rfl
  · -- an earlier day ranks lower, whatever the levels
    have hlt : compare b.1.fields a.1.fields = .lt := by
      simpa [dayBefore, Date.cmp_eq_compare_fields] using hd
    rw [dayRankBefore, dayRank, dayRank,
      Stamp.compare_append_of_length_eq _ _ (by simp [Date.fields]), hlt] at h
    cases h

section Groups

variable {sorted : List (Date × Option Value)} (hkeyed : ∀ k ∈ sorted, LevelKeyed k)
  (hsorted : sorted.Pairwise fun a b => dayRankBefore b a = false)
include hkeyed hsorted

theorem runs_filter_day (D : Date) :
    (runs (fun a b => Value.sameEq (dayKey a) (dayKey b)) sorted).filter (fun r => r.1.1 = D) =
      runs (fun a b => Value.sameEq (dayKey a) (dayKey b)) (sorted.filter (·.1 = D)) := by
  have hdays : sorted.Pairwise fun a b => dayBefore b a = false := hsorted.imp dayBefore_eq_false
  have hsplit := eq_filter_append_of_sorted strictWeakOn_dayBefore (k := (D, none)) trivial
    (fun _ _ => trivial) hdays
  have htied : sorted.filter (fun y => tied dayBefore y (D, none)) = sorted.filter (·.1 = D) :=
    List.filter_congr fun y _ => tied_dayBefore y (D, none)
  rw [← htied]
  conv_lhs => rw [hsplit]
  refine runs_filter_block _ (m := fun k : Date × Option Value => decide (k.1 = D))
    (fun a ha b hb hab => ?_) (fun a ha => ?_) (fun b hb => ?_) (fun c hc => ?_)
  · -- keys the store takes as equal are of one day
    rw [← hsplit] at ha hb
    rw [sameEq_dayKey (hkeyed a ha) (hkeyed b hb), decide_eq_true_eq] at hab
    simp [(dayRank_eq_iff.1 hab).1]
  · have hlt : a.1.cmp D = .lt := by simpa [dayBefore] using (List.mem_filter.1 ha).2
    simp [Date.ne_of_cmp_lt hlt]
  · simpa [tied_dayBefore] using (List.mem_filter.1 hb).2
  · have hlt : D.cmp c.1 = .lt := by simpa [dayBefore] using (List.mem_filter.1 hc).2
    simp [(Date.ne_of_cmp_lt hlt).symm]

theorem runs_count_level (D : Date) (l : Level) :
    (((runs (fun a b => Value.sameEq (dayKey a) (dayKey b)) (sorted.filter (·.1 = D))).filter
        fun r => (r.1.2.getD .null).textOf? = some l.text).foldl (fun _ r => r.2) 0) =
      (sorted.filter fun k => k.1 = D ∧ (k.2.getD .null).textOf? = some l.text).length := by
  have hBkeyed : ∀ k ∈ sorted.filter (·.1 = D), LevelKeyed k :=
    fun k hk => hkeyed k (List.mem_filter.1 hk).1
  have hBsorted := hsorted.filter (fun k => decide (k.1 = D))
  have hkl : LevelKeyed (D, some (.str l.text)) := ⟨_, rfl, trivial⟩
  -- among the day's keys, a tie with the level's key is having the level's text
  have hclass : ∀ k ∈ sorted.filter (·.1 = D), tied dayRankBefore k (D, some (.str l.text)) =
      decide ((k.2.getD .null).textOf? = some l.text) := fun k hk => by
    obtain ⟨v, hv, hvt⟩ := hBkeyed k hk
    have hD : k.1 = D := of_decide_eq_true (List.mem_filter.1 hk).2
    rw [tied_dayRankBefore]
    simp [dayRank_eq_iff, hD, hv, levelRank_eq_str_iff hvt]
  have hsplit := eq_filter_append_of_sorted strictWeakOn_dayRankBefore hkl hBkeyed hBsorted
  have hblock : ((sorted.filter (·.1 = D)).filter fun y =>
      tied dayRankBefore y (D, some (.str l.text))) =
      sorted.filter fun k => k.1 = D ∧ (k.2.getD .null).textOf? = some l.text := by
    rw [List.filter_congr hclass, List.filter_filter]
    congr 1
    funext k
    rw [Bool.and_comm, Bool.decide_and]
  have hruns : (runs (fun a b => Value.sameEq (dayKey a) (dayKey b))
      (sorted.filter (·.1 = D))).filter (fun r => (r.1.2.getD .null).textOf? = some l.text) =
      runs (fun a b => Value.sameEq (dayKey a) (dayKey b))
        ((sorted.filter (·.1 = D)).filter fun y =>
          tied dayRankBefore y (D, some (.str l.text))) := by
    conv_lhs => rw [hsplit]
    refine runs_filter_block _
      (m := fun k : Date × Option Value => decide ((k.2.getD .null).textOf? = some l.text))
      (fun a ha b hb hab => ?_) (fun a ha => ?_) (fun b hb => ?_) (fun c hc => ?_)
    · rw [← hsplit] at ha hb
      obtain ⟨v, hv, hvt⟩ := hBkeyed a ha
      obtain ⟨w, hw, hwt⟩ := hBkeyed b hb
      rw [sameEq_dayKey (hBkeyed a ha) (hBkeyed b hb), decide_eq_true_eq, dayRank_eq_iff, hv,
        hw] at hab
      simp [hv, hw, textOf?_eq_of_levelRank_eq hvt hwt hab.2]
    · obtain ⟨ha, hlt⟩ := List.mem_filter.1 ha
      rw [← hclass a ha]
      simp [tied, hlt]
    · obtain ⟨hb, htie⟩ := List.mem_filter.1 hb
      rw [← hclass b hb, htie]
    · obtain ⟨hc, hlt⟩ := List.mem_filter.1 hc
      rw [← hclass c hc]
      simp [tied, hlt]
  rw [hruns, ← hblock]
  generalize hB : (sorted.filter (·.1 = D)).filter
    (fun y => tied dayRankBefore y (D, some (.str l.text))) = B
  cases B with
  | nil => rfl
  | cons b rest =>
    -- all keys of the block rank as the level's key, so the store takes them as equal
    have hrank : ∀ y ∈ b :: rest,
        LevelKeyed y ∧ dayRank y = dayRank (D, some (.str l.text)) := fun y hy => by
        rw [← hB] at hy
        obtain ⟨hy, htie⟩ := List.mem_filter.1 hy
        exact ⟨hBkeyed y hy, of_decide_eq_true (by rw [← tied_dayRankBefore]; exact htie)⟩
    obtain ⟨hbk, hbr⟩ := hrank b List.mem_cons_self
    rw [runs_of_forall_eq _ fun y hy => by
      obtain ⟨hyk, hyr⟩ := hrank y (List.mem_cons_of_mem b hy)
      rw [sameEq_dayKey hbk hyk, hbr, hyr]
      exact decide_eq_true rfl]
    simp

end Groups

/-! ### The table of days -/

def Record.createdDay? (d : Record) : Option Date := (createdStamp? d).map (·.toNaiveUtc.date)

/-- The key the store counts a document under in the daily counts: the day it was created on
and its level. -/
def Record.dayKey? (d : Record) : Option (Date × Option Value) :=
  d.createdDay?.map (·, d.get? "level")

def LevelCounts.ofDocs (M : List Record) : LevelCounts where
  error := (M.filter (·.hasLevel .error)).length
  warn := (M.filter (·.hasLevel .warn)).length
  info := (M.filter (·.hasLevel .info)).length
  debug := (M.filter (·.hasLevel .debug)).length

@[simp] theorem LevelCounts.get_ofDocs (M : List Record) (l : Level) :
    (ofDocs M).get l = (M.filter (·.hasLevel l)).length := by
  cases l <;> rfl

theorem length_filter_filterMap {α β : Type} (f : α → Option β) (q : β → Bool) :
    ∀ W : List α, ((W.filterMap f).filter q).length = (W.filter fun a => (f a).any q).length
  | [] => rfl
  | a :: W => by
    cases h : f a with
    | none => simp [h, length_filter_filterMap f q W]
    | some b => by_cases hb : q b = true <;> simp [h, hb, length_filter_filterMap f q W]

theorem dayKey?_any (d : Record) (D : Date) (l : Level) :
    (d.dayKey?.any fun k => decide (k.1 = D ∧ (k.2.getD .null).textOf? = some l.text)) =
      (d.hasLevel l && decide (d.createdDay? = some D)) := by
  unfold Record.dayKey?
  cases d.createdDay? with
  | none => simp
  | some D' => simp [Record.hasLevel, Bool.and_comm]

theorem Date.pairwise_cmp_dedup {Ks : List Date}
    (h : Ks.Pairwise fun a b => (b.cmp a == .lt) = false) :
    Ks.dedup.Pairwise fun a b => a.cmp b = .lt := by
  refine ((h.sublist (List.dedup_sublist _)).and (List.nodup_dedup _)).imp fun ⟨hba, hne⟩ => ?_
  cases hc : Date.cmp _ _ with
  | lt => rfl
  | eq => exact absurd (Date.cmp_eq_eq_iff.1 hc) hne
  | gt => simp [Date.cmp_eq_gt_iff.1 hc] at hba

theorem Date.find?_text {Ds : List Date} (hR : ∀ D ∈ Ds, D.InRange) {D : Date} (hD : D ∈ Ds) :
    Ds.find? (fun D' => D'.text = D.text) = some D := by
  obtain ⟨D', hD'⟩ := Option.isSome_iff_exists.1
    ((List.find?_isSome (p := fun D' : Date => decide (D'.text = D.text))).2 ⟨D, hD, by simp⟩)
  have hp := List.find?_some hD'
  have htext : D'.text = D.text := of_decide_eq_true hp
  rw [hD', Date.text_injective (hR D' (List.mem_of_find?_eq_some hD')) (hR D hD) htext]

/-- The table the statistics build from the groups of the documents `W`, sorted by the store:
the days of the documents in calendar order, each with the counts of its documents by level. -/
theorem foldl_insertDay_runs {W : List Record}
    (hday : ∀ d ∈ W, ∃ D, d.createdDay? = some D ∧ D.InRange)
    (hlevel : ∀ d ∈ W, ∃ v, d.get? "level" = some v ∧ v.IsTextOrNull)
    {sorted : List (Date × Option Value)}
    (hsort : IsStableSort dayRankBefore LevelKeyed (W.filterMap Record.dayKey?) sorted) :
    ∃ Ds : List Date,
      (runs (fun a b => Value.sameEq (dayKey a) (dayKey b)) sorted).foldl
          (fun acc r => insertDay r.1.1.text (r.1.2.getD .null) r.2 acc) [] =
        Ds.map (fun D => ⟨D.text, LevelCounts.ofDocs (W.filter (·.createdDay? = some D))⟩) ∧
      Ds.Pairwise (fun a b => a.cmp b = .lt) ∧
      (∀ D, D ∈ Ds ↔ ∃ d ∈ W, d.createdDay? = some D) ∧
      ∀ D ∈ Ds, D.InRange := by
  have hkey : ∀ k ∈ sorted,
      LevelKeyed k ∧ k.1.InRange ∧ ∃ d ∈ W, d.createdDay? = some k.1 := by
    intro k hk
    obtain ⟨d, hd, hdk⟩ := List.mem_filterMap.1 (hsort.perm.mem_iff.1 hk)
    obtain ⟨D, hD, hDr⟩ := hday d hd
    obtain ⟨v, hv, hvt⟩ := hlevel d hd
    rw [Record.dayKey?, hD, Option.map_some, Option.some.injEq] at hdk
    subst hdk
    exact ⟨⟨v, hv, hvt⟩, hDr, d, hd, hD⟩
  have hkeyed : ∀ k ∈ sorted, LevelKeyed k := fun k hk => (hkey k hk).1
  have hsorted := hsort.sorted
  let Ds := (sorted.map (·.1)).dedup
  have hDs : ∀ D, D ∈ Ds ↔ ∃ k ∈ sorted, k.1 = D := fun D => by simp [Ds, List.mem_dedup]
  have hDsRange : ∀ D ∈ Ds, D.InRange := fun D hD => by
    obtain ⟨k, hk, rfl⟩ := (hDs D).1 hD
    exact (hkey k hk).2.1
  have hDsW : ∀ D, D ∈ Ds ↔ ∃ d ∈ W, d.createdDay? = some D := fun D => by
    rw [hDs]
    constructor
    · rintro ⟨k, hk, rfl⟩
      exact (hkey k hk).2.2
    · rintro ⟨d, hd, hD⟩
      obtain ⟨v, hv, -⟩ := hlevel d hd
      refine ⟨(D, some v), hsort.perm.mem_iff.2 (List.mem_filterMap.2 ⟨d, hd, ?_⟩), rfl⟩
      rw [Record.dayKey?, hD, hv]
      rfl
  have hDsSorted : Ds.Pairwise (fun a b => a.cmp b = .lt) :=
    Date.pairwise_cmp_dedup (List.pairwise_map.2 (hsorted.imp dayBefore_eq_false))
  refine ⟨Ds, ?_, hDsSorted, hDsW, hDsRange⟩
  refine DayTable.eq_of_find? (DayTable.sorted_foldl_insertDay _ _ _ _ List.Pairwise.nil)
    (List.pairwise_map.2 (hDsSorted.imp_of_mem fun ha hb h => by
      rw [Date.textCmp_text (hDsRange _ ha) (hDsRange _ hb)]
      exact h)) fun T => ?_
  rw [DayTable.find?_foldl_insertDay _ _ _ T _ List.Pairwise.nil, List.find?_map]
  by_cases hT : ∃ D ∈ Ds, D.text = T
  · obtain ⟨D, hD, rfl⟩ := hT
    have hrows : (runs (fun a b => Value.sameEq (dayKey a) (dayKey b)) sorted).filter
        (fun r => r.1.1.text = D.text) =
        runs (fun a b => Value.sameEq (dayKey a) (dayKey b)) (sorted.filter (·.1 = D)) := by
      rw [← runs_filter_day hkeyed hsorted D]
      refine List.filter_congr fun r hr => ?_
      have hrange := (hkey r.1 (fst_mem_of_mem_runs hr)).2.1
      exact decide_eq_decide.2 ⟨Date.text_injective hrange (hDsRange D hD), congrArg Date.text⟩
    have hany : ((runs (fun a b => Value.sameEq (dayKey a) (dayKey b)) sorted).any
        fun r => r.1.1.text = D.text) = true := by
      obtain ⟨k, hk, hkD⟩ := (hDs D).1 hD
      have hkmem : k ∈ sorted.filter (·.1 = D) := List.mem_filter.2 ⟨hk, decide_eq_true hkD⟩
      have hne := runs_ne_nil (fun a b => Value.sameEq (dayKey a) (dayKey b))
        (List.ne_nil_of_mem hkmem)
      rw [← hrows] at hne
      obtain ⟨r, hr⟩ := List.exists_mem_of_ne_nil _ hne
      exact List.any_eq_true.2 ⟨r, (List.mem_filter.1 hr).1, (List.mem_filter.1 hr).2⟩
    rw [if_pos hany, hrows]
    simp only [Function.comp_def, Date.find?_text hDsRange hD, Option.map_some, Option.some.injEq,
      DailyStatistics.mk.injEq, true_and]
    ext l
    rw [LevelCounts.get_foldl_withCount, DayTable.countsOf_nil, LevelCounts.get_empty,
      runs_count_level hkeyed hsorted D l, LevelCounts.get_ofDocs, List.filter_filter,
      (hsort.perm.filter _).length_eq, length_filter_filterMap]
    congr 1
    exact List.filter_congr fun d _ => dayKey?_any d D l
  · have hnone : Ds.find? (fun D' => D'.text = T) = none :=
      List.find?_eq_none.2 fun D hD h => hT ⟨D, hD, of_decide_eq_true h⟩
    have hany : ((runs (fun a b => Value.sameEq (dayKey a) (dayKey b)) sorted).any
        fun r => r.1.1.text = T) = false :=
      List.any_eq_false.2 fun r hr h => hT ⟨r.1.1,
        (hDs _).2 ⟨r.1, fst_mem_of_mem_runs hr, rfl⟩, of_decide_eq_true h⟩
    rw [if_neg (by simp [hany]), Function.comp_def, hnone]
    rfl

theorem Date.pairwise_textCmp_text {Ds : List Date} (hR : ∀ D ∈ Ds, D.InRange)
    (h : Ds.Pairwise fun a b => a.cmp b = .lt) :
    (Ds.map Date.text).Pairwise fun a b => Value.textCmp a b = .lt :=
  List.pairwise_map.2 (h.imp_of_mem fun ha hb hab =>
    (Date.textCmp_text (hR _ ha) (hR _ hb)).trans hab)

/-! ### Totals -/

def DailyStatistics.grandTotal (days : List DailyStatistics) : Nat :=
  days.foldr (fun e n => e.counts.total + n) 0

@[simp] theorem DailyStatistics.grandTotal_nil : grandTotal [] = 0 := rfl

@[simp] theorem DailyStatistics.grandTotal_cons (e : DailyStatistics) (es : List DailyStatistics) :
    grandTotal (e :: es) = e.counts.total + grandTotal es := rfl

theorem length_filter_split (p q : Record → Bool) : ∀ W : List Record,
    ((W.filter p).filter q).length + ((W.filter fun d => !p d).filter q).length =
      (W.filter q).length
  | [] => rfl
  | d :: W => by
    have ih := length_filter_split p q W
    cases hp : p d <;> cases hq : q d <;>
      simp only [List.filter_cons, hp, hq, Bool.not_true, Bool.not_false, if_true,
        Bool.false_eq_true, if_false, List.length_cons] <;> omega

theorem LevelCounts.total_ofDocs_split (p : Record → Bool) (W : List Record) :
    (ofDocs (W.filter p)).total + (ofDocs (W.filter fun d => !p d)).total = (ofDocs W).total := by
  have he := length_filter_split p (·.hasLevel .error) W
  have hw := length_filter_split p (·.hasLevel .warn) W
  have hi := length_filter_split p (·.hasLevel .info) W
  have hd := length_filter_split p (·.hasLevel .debug) W
  simp only [total_eq_get, get_ofDocs]
  omega

theorem grandTotal_days : ∀ {Ds : List Date} {W : List Record}, Ds.Nodup →
    (∀ d ∈ W, ∃ D ∈ Ds, d.createdDay? = some D) →
    DailyStatistics.grandTotal (Ds.map fun D =>
        ⟨D.text, LevelCounts.ofDocs (W.filter (·.createdDay? = some D))⟩) =
      (LevelCounts.ofDocs W).total
  | [], W, _, hcover => by
    have hW : W = [] := List.eq_nil_iff_forall_not_mem.2 fun d hd => by simpa using hcover d hd
    subst hW
    rfl
  | D :: Ds, W, hnodup, hcover => by
    obtain ⟨hD, hnd⟩ := List.nodup_cons.1 hnodup
    have hrest : ∀ D' ∈ Ds, W.filter (·.createdDay? = some D') =
        (W.filter fun d => !decide (d.createdDay? = some D)).filter (·.createdDay? = some D') :=
      fun D' hD' => by
        rw [List.filter_filter]
        refine List.filter_congr fun d _ => ?_
        by_cases h : d.createdDay? = some D'
        · have hne : D' ≠ D := fun h' => hD (h' ▸ hD')
          simp [h, hne]
        · simp [h]
    have ih := grandTotal_days hnd (W := W.filter fun d => !decide (d.createdDay? = some D))
      fun d hd => by
        obtain ⟨hdW, hne⟩ := List.mem_filter.1 hd
        obtain ⟨D', hD', hday⟩ := hcover d hdW
        rcases List.mem_cons.1 hD' with rfl | hD'
        · simp [hday] at hne
        · exact ⟨D', hD', hday⟩
    rw [List.map_cons, DailyStatistics.grandTotal_cons,
      List.map_congr_left fun D' hD' => by rw [hrest D' hD'], ih]
    exact LevelCounts.total_ofDocs_split _ W

/-! ### The statistics of a store -/

theorem Record.levelKeyed_of_dayKey? {d : Record} {k : Date × Option Value}
    (hd : ∃ v, d.get? "level" = some v ∧ v.IsTextOrNull) (hk : d.dayKey? = some k) :
    LevelKeyed k := by
  obtain ⟨v, hv, hvt⟩ := hd
  unfold Record.dayKey? at hk
  obtain ⟨D, -, rfl⟩ := Option.map_eq_some_iff.1 hk
  exact ⟨v, hv, hvt⟩

theorem Record.createdDay?_inRange {d : Record} {s t : Stamp} (hs : s.offset = none)
    (ht : t.offset = none) (hlo : Stamp.minWall ≤ s.wall) (hhi : t.wall ≤ Stamp.maxWall)
    (hc : ∃ u, d.get? "createdAt" = some (.stamp u))
    (hw : (d.createdSince s && d.createdUpto t) = true) :
    ∃ D, d.createdDay? = some D ∧ D.InRange := by
  obtain ⟨u, hu⟩ := hc
  rw [Bool.and_eq_true, createdSince_of_stamp hu, createdUpto_of_stamp hu, decide_eq_true_iff,
    decide_eq_true_iff, Stamp.toStored_of_naive hs, Stamp.toStored_of_naive ht] at hw
  have hmod : Stamp.minWall % 1000 = 0 := by decide
  simp only [Stamp.utc, Stamp.truncMillis, hs, ht, Option.getD_none] at hw
  refine ⟨u.toNaiveUtc.date, by simp [Record.createdDay?, createdStamp?_of_stamp hu],
    Stamp.date_inRange ?_ ?_⟩ <;>
  · simp only [Stamp.toNaiveUtc, Stamp.utc]
    omega

namespace Collection

variable {c : Collection} (hc : ∀ d ∈ c.docs, ∃ u, d.get? "createdAt" = some (.stamp u))
  (hlevel : ∀ d ∈ c.docs, ∃ v, d.get? "level" = some v ∧ v.IsTextOrNull)
include hc hlevel

theorem dailyLevelCounts_sorted (since upto : Stamp) :
    ∃ sorted, IsStableSort dayRankBefore LevelKeyed
        ((c.docs.filter fun d => d.createdSince since && d.createdUpto upto).filterMap
          Record.dayKey?) sorted ∧
      c.dailyLevelCounts since upto =
        .ok (runs (fun a b => Value.sameEq (dayKey a) (dayKey b)) sorted) := by
  have hkeys : ∀ k ∈ (c.docs.filter fun d =>
      d.createdSince since && d.createdUpto upto).filterMap Record.dayKey?,
      LevelKeyed k := fun k hk => by
    obtain ⟨d, hd, hdk⟩ := List.mem_filterMap.1 hk
    exact Record.levelKeyed_of_dayKey? (hlevel d (List.mem_filter.1 hd).1) hdk
  obtain ⟨sorted, hsorted, hstable⟩ := sortByM_spec strictWeakOn_dayRankBefore
    (fun a b ha hb => sortLt_dayKey_rank ha hb) false _ hkeys
  refine ⟨sorted, by simpa only [Bool.false_eq_true, if_false] using hstable, ?_⟩
  unfold dailyLevelCounts
  dsimp only
  rw [select_window hc]
  simp only [bind, Except.bind]
  generalize hK : List.filterMap _ (List.filter _ c.docs) = K
  have hK' : K = (c.docs.filter fun d => d.createdSince since && d.createdUpto upto).filterMap
      Record.dayKey? := by
    rw [← hK]
    refine List.filterMap_congr fun d _ => ?_
    unfold Record.dayKey? Record.createdDay? createdStamp?
    cases d.get? "createdAt" with
    | none => rfl
    | some v => cases v <;> rfl
  rw [hK', hsorted]
  rfl

end Collection

namespace Service

theorem daysSpan_earlier {t : Stamp} {n : Int} (h₀ : 0 ≤ n) (h₁ : n ≤ 365)
    (hlo : Stamp.minWall ≤ t.wall - n * microsPerDay) (hhi : t.wall ≤ Stamp.maxWall) :
    (daysSpan (.int n) >>= t.earlier) = .ok { t with wall := t.wall - n * microsPerDay } := by
  have hpos : (0 : Int) ≤ n * microsPerDay := Int.mul_nonneg h₀ (by decide)
  rw [daysSpan_int h₀ (by simp only [Span.maxDays]; omega)]
  exact Stamp.earlier_eq hlo (by omega)

theorem statistics_refused {sv : Service} {n : Int} (hn : n < 1 ∨ maxDaysBack < n) :
    statistics (.int n) sv =
      (.error (.invalidFilter "daysBack" "daysBack must be between 1 and 365"), sv) := by
  unfold statistics
  rw [now_bind_apply, checkRange_int, if_pos hn]
  rfl

variable {sv : Service} (hq : sv.db.Quiet)
  (hc : ∀ d ∈ sv.db.coll.docs, ∃ u, d.get? "createdAt" = some (.stamp u))
  (hlevel : ∀ d ∈ sv.db.coll.docs, ∃ v, d.get? "level" = some v ∧ v.IsTextOrNull)
include hq hc hlevel

theorem statistics_sorted {n : Int} (h₁ : 1 ≤ n) (h₃₆₅ : n ≤ maxDaysBack)
    (hlo : Stamp.minWall ≤ sv.clock.wall - n * microsPerDay)
    (hhi : sv.clock.wall ≤ Stamp.maxWall) :
    let since : Stamp := { sv.clock with wall := sv.clock.wall - n * microsPerDay }
    ∃ sorted, IsStableSort dayRankBefore LevelKeyed
        ((sv.db.coll.docs.filter fun d => d.createdSince since && d.createdUpto sv.clock).filterMap
          Record.dayKey?) sorted ∧
      statistics (.int n) sv = (.ok ((runs (fun a b => Value.sameEq (dayKey a) (dayKey b))
        sorted).foldl (fun acc r => insertDay r.1.1.text (r.1.2.getD .null) r.2 acc) []), sv) := by
  intro since
  obtain ⟨sorted, hsort, hrows⟩ := sv.db.coll.dailyLevelCounts_sorted hc hlevel since sv.clock
  refine ⟨sorted, hsort, ?_⟩
  unfold statistics
  rw [now_bind_apply, checkRange_int, if_neg (by simp only [maxDaysBack] at h₃₆₅ ⊢; omega),
    except_ok_bind, daysSpan_earlier (by omega) (by simpa [maxDaysBack] using h₃₆₅) hlo hhi]
  dsimp only
  rw [Db.bind_apply, onDb_read_of_quiet hq, hrows]
  refine congrArg (·, sv) (foldlM_eq_ok_foldl _ fun acc r hr => ?_)
  obtain ⟨d, hd, hdk⟩ := List.mem_filterMap.1 (hsort.perm.mem_iff.1 (fst_mem_of_mem_runs hr))
  obtain ⟨v, hv, hvt⟩ := Record.levelKeyed_of_dayKey? (hlevel d (List.mem_filter.1 hd).1) hdk
  simp only [hv, levelKey, hvt.unhashable]
  rfl

/-- The statistics of one to 365 days back from a naive representable clock: one entry per day
some document of the window was created on, in calendar order, with the counts per level of
that day's documents; together the days count every document of the window once. -/
theorem statistics_days {n : Int} (h₁ : 1 ≤ n) (h₃₆₅ : n ≤ maxDaysBack)
    (hnaive : sv.clock.offset = none) (hlo : Stamp.minWall ≤ sv.clock.wall - n * microsPerDay)
    (hhi : sv.clock.wall ≤ Stamp.maxWall) :
    let W := sv.db.coll.docs.filter fun d =>
      d.createdSince { sv.clock with wall := sv.clock.wall - n * microsPerDay } &&
        d.createdUpto sv.clock
    ∃ Ds : List Date, statistics (.int n) sv = (.ok (Ds.map fun D =>
        ⟨D.text, LevelCounts.ofDocs (W.filter (·.createdDay? = some D))⟩), sv) ∧
      Ds.Pairwise (fun a b => a.cmp b = .lt) ∧
      (∀ D, D ∈ Ds ↔ ∃ d ∈ W, d.createdDay? = some D) ∧
      (∀ D ∈ Ds, D.InRange) ∧
      DailyStatistics.grandTotal (Ds.map fun D =>
        ⟨D.text, LevelCounts.ofDocs (W.filter (·.createdDay? = some D))⟩) =
        (LevelCounts.ofDocs W).total := by
  intro W
  obtain ⟨sorted, hsort, hstat⟩ := statistics_sorted hq hc hlevel h₁ h₃₆₅ hlo hhi
  have hday : ∀ d ∈ W, ∃ D, d.createdDay? = some D ∧ D.InRange := fun d hd =>
    Record.createdDay?_inRange (s := { sv.clock with wall := sv.clock.wall - n * microsPerDay })
      hnaive hnaive hlo hhi (hc d (List.mem_filter.1 hd).1) (List.mem_filter.1 hd).2
  obtain ⟨Ds, hDs, hlt, hmem, hrange⟩ :=
    foldl_insertDay_runs hday (fun d hd => hlevel d (List.mem_filter.1 hd).1) hsort
  -- every document of the window falls on one of the days, so the days count each once
  have hcover : ∀ d ∈ W, ∃ D ∈ Ds, d.createdDay? = some D := fun d hd => by
    obtain ⟨D, hD, -⟩ := hday d hd
    exact ⟨D, (hmem D).2 ⟨d, hd, hD⟩, hD⟩
  exact ⟨Ds, by rw [hstat, hDs], hlt, hmem, hrange,
    grandTotal_days (hlt.imp Date.ne_of_cmp_lt) hcover⟩

theorem query_window_total {since : Stamp} {p : LogsPage}
    (hp : (query { startDate := some since, endDate := some sv.clock } false).run' sv = .ok p) :
    p.summary.errorCount + p.summary.warnCount + p.summary.infoCount + p.summary.debugCount =
      (LevelCounts.ofDocs (sv.db.coll.docs.filter fun d =>
        d.createdSince since && d.createdUpto sv.clock)).total := by
  obtain ⟨-, -, counts, users, range, -, -, hcounts, -, -, hsum, -⟩ :=
    query_reads hq.onlyReads hp
  have hcond : ({ startDate := some since, endDate := some sv.clock } : Listing).toFilters.cond
      false = [.field "createdAt" [.atLeast (.stamp since), .atMost (.stamp sv.clock)]] := rfl
  obtain ⟨counts', hcounts', hcount⟩ := levelCounts_countOf (sv.db.coll.select_window hc since
    sv.clock) fun d hd => by
      obtain ⟨v, hv, hvt⟩ := hlevel d (List.mem_filter.1 hd).1
      rw [hv]
      exact hvt.sortable
  rw [hcond, hcounts'] at hcounts
  obtain rfl := Except.ok.inj hcounts
  obtain ⟨lo, hi, -, -, hS⟩ := Summary.ofReads_eq hsum
  simp only [hS, hcount, LevelCounts.total_eq_get, LevelCounts.get_ofDocs]

end Service

/-- The statistics of days by level.

* `daysBack` outside `[1, 365]` is refused before the store is read, the store untouched;
* planned faults of the store pass unseen or end the report with its generic failure;
* on a quiet store whose documents each carry a creation stamp and a text or null level, with a
  naive clock and the window's start representable, the report has one entry per day on which
  some document of the window `W` was created, where the store cuts the window's start to its
  millisecond; the days are in calendar order, so their `YYYY-MM-DD` texts strictly increase;
  each entry counts the documents of `W` of its day per level, and the days' totals add up to
  the level counts of a listing of the same window, which answers on a listable store. -/
theorem statistics_groups_window_by_day (sv : Service) :
    (∀ n : Int, n < 1 ∨ 365 < n → Service.statistics (.int n) sv =
      (.error (.invalidFilter "daysBack" "daysBack must be between 1 and 365"), sv)) ∧
    (∀ n : Int, Service.ToleratesFaults [.queryFailed "could not complete statistics query"]
      (Service.statistics (.int n))) ∧
    (sv.db.Quiet → sv.clock.offset = none →
      (∀ d ∈ sv.db.coll.docs, ∃ u, d.get? "createdAt" = some (.stamp u)) →
      (∀ d ∈ sv.db.coll.docs, ∃ v, d.get? "level" = some v ∧ v.IsTextOrNull) →
      ∀ n : Int, 1 ≤ n → n ≤ 365 → Stamp.minWall ≤ sv.clock.wall - n * microsPerDay →
        sv.clock.wall ≤ Stamp.maxWall →
        let since : Stamp := { sv.clock with wall := sv.clock.wall - n * microsPerDay }
        let W := sv.db.coll.docs.filter fun d => d.createdSince since && d.createdUpto sv.clock
        let q : Listing := { startDate := some since, endDate := some sv.clock }
        ∃ Ds : List Date,
          let days := Ds.map fun D =>
            (⟨D.text, LevelCounts.ofDocs (W.filter (·.createdDay? = some D))⟩ :
              DailyStatistics)
          Service.statistics (.int n) sv = (.ok days, sv) ∧
          Ds.Pairwise (fun a b => a.cmp b = .lt) ∧
          (days.map (·.date)).Pairwise (fun a b => Value.textCmp a b = .lt) ∧
          (∀ D, D ∈ Ds ↔ ∃ d ∈ W, d.createdDay? = some D) ∧
          (∀ p : LogsPage, (Service.query q false).run' sv = .ok p →
            DailyStatistics.grandTotal days = p.summary.errorCount + p.summary.warnCount +
              p.summary.infoCount + p.summary.debugCount) ∧
          (sv.Listable → ∃ p, (Service.query q false).run' sv = .ok p)) := by
  refine ⟨fun n hn => Service.statistics_refused hn,
    fun n => Service.statistics_toleratesFaults _,
    fun hq hnaive hc hlevel n h₁ h₃₆₅ hlo hhi => ?_⟩
  obtain ⟨Ds, hstat, hlt, hmem, hrange, htotal⟩ :=
    Service.statistics_days hq hc hlevel h₁ h₃₆₅ hnaive hlo hhi
  refine ⟨Ds, hstat, hlt, ?_, hmem, fun p hp => ?_, fun hsv => ?_⟩
  · rw [List.map_map]
    exact Date.pairwise_textCmp_text hrange hlt
  · rw [htotal, Service.query_window_total hq hc hlevel hp]
  · exact hsv.query_answers _ false (by show 0 < 50; decide) (by show 50 < 2 ^ 53; decide)

def twoDaysOfLevels : Service where
  db := { coll := { entries := [
    (.objectId 1, [("_id", .objectId 1), ("level", .str "error"),
      ("createdAt", .stamp ⟨1718355600000000, none⟩)]),
    (.objectId 2, [("_id", .objectId 2), ("level", .str "info"),
      ("createdAt", .stamp ⟨1718438400000000, none⟩)]),
    (.objectId 3, [("_id", .objectId 3), ("level", .null),
      ("createdAt", .stamp ⟨1718442000000000, none⟩)]),
    (.objectId 4, [("_id", .objectId 4), ("level", .str "notice"),
      ("createdAt", .stamp ⟨1718445600000000, none⟩)])], nextId := 5 } }
  clock := ⟨1718452800000000, none⟩

/-- The statistics of the last two days of `twoDaysOfLevels`. -/
theorem statistics_two_days_of_levels :
    let since : Stamp := { twoDaysOfLevels.clock with
      wall := twoDaysOfLevels.clock.wall - 2 * microsPerDay }
    let W := twoDaysOfLevels.db.coll.docs.filter fun d =>
      d.createdSince since && d.createdUpto twoDaysOfLevels.clock
    let q : Listing := { startDate := some since, endDate := some twoDaysOfLevels.clock }
    ∃ Ds : List Date,
      let days := Ds.map fun D =>
        (⟨D.text, LevelCounts.ofDocs (W.filter (·.createdDay? = some D))⟩ : DailyStatistics)
      Service.statistics (.int 2) twoDaysOfLevels = (.ok days, twoDaysOfLevels) ∧
      Ds.Pairwise (fun a b => a.cmp b = .lt) ∧
      (days.map (·.date)).Pairwise (fun a b => Value.textCmp a b = .lt) ∧
      (∀ D, D ∈ Ds ↔ ∃ d ∈ W, d.createdDay? = some D) ∧
      (∀ p : LogsPage, (Service.query q false).run' twoDaysOfLevels = .ok p →
        DailyStatistics.grandTotal days = p.summary.errorCount + p.summary.warnCount +
          p.summary.infoCount + p.summary.debugCount) ∧
      (twoDaysOfLevels.Listable →
        ∃ p, (Service.query q false).run' twoDaysOfLevels = .ok p) := by
  have hdocs : ∀ d ∈ twoDaysOfLevels.db.coll.docs,
      (∃ u, d.get? "createdAt" = some (.stamp u)) ∧
        ∃ v, d.get? "level" = some v ∧ v.IsTextOrNull := fun d hd => by
    simp only [twoDaysOfLevels, Collection.docs, List.map, List.mem_cons, List.not_mem_nil,
      or_false] at hd
    rcases hd with rfl | rfl | rfl | rfl <;> exact ⟨⟨_, rfl⟩, _, rfl, trivial⟩
  exact (statistics_groups_window_by_day twoDaysOfLevels).2.2 ⟨(fun _ _ hp => by cases hp), rfl⟩
    rfl (fun d hd => (hdocs d hd).1) (fun d hd => (hdocs d hd).2) 2 (by decide) (by decide)
    (by decide) (by decide)

def earlyInfoEvent : Service where
  db := { coll := { entries := [(.objectId 1, [("_id", .objectId 1), ("level", .str "info"),
    ("createdAt", .stamp ⟨1718366400000000, none⟩)])], nextId := 2 } }
  clock := ⟨1718452800000500, none⟩

/-- The store cuts the start of a window to its millisecond: the statistics of the last day
have an entry for the day of an event created half a millisecond before the clock moved back a
day. -/
theorem statistics_window_admits_earlier_event :
    (∃ e es, (Service.statistics (.int 1) earlyInfoEvent).1 = .ok (e :: es)) ∧
      ∀ d ∈ earlyInfoEvent.db.coll.docs, ∃ t : Stamp, d.get? "createdAt" = some (.stamp t) ∧
        t.utc < earlyInfoEvent.clock.utc - microsPerDay := by
  have hdoc : ∀ d ∈ earlyInfoEvent.db.coll.docs, d = [("_id", .objectId 1),
      ("level", .str "info"), ("createdAt", .stamp ⟨1718366400000000, none⟩)] := fun d hd => by
    simpa only [earlyInfoEvent, Collection.docs, List.map, List.mem_singleton] using hd
  have hq : earlyInfoEvent.db.Quiet := ⟨(fun _ _ hp => by cases hp), rfl⟩
  obtain ⟨Ds, hstat, -, hmem, -, -⟩ := Service.statistics_days (n := 1) hq
    (fun d hd => by rw [hdoc d hd]; exact ⟨_, rfl⟩)
    (fun d hd => by rw [hdoc d hd]; exact ⟨_, rfl, trivial⟩) (by decide) (by decide) rfl
    (by decide) (by decide)
  refine ⟨?_, fun d hd => by rw [hdoc d hd]; exact ⟨_, rfl, by decide⟩⟩
  have hD : ⟨2024, 6, 14⟩ ∈ Ds :=
    (hmem _).2 ⟨_, List.mem_filter.2 ⟨List.mem_singleton_self _, by decide⟩, by decide⟩
  obtain ⟨D, Ds', rfl⟩ := List.exists_cons_of_ne_nil (List.ne_nil_of_mem hD)
  exact ⟨_, _, congrArg Prod.fst hstat⟩

end AuditTrail
