import AuditTrail.Proofs.CalendarText
import AuditTrail.Proofs.LevelCounts

/-!
# Tables of days

A table of days kept in text order is a sorted map: insertion keeps it sorted, and after a run of
insertions each day holds the counts its own rows set (`DayTable.find?_foldl_insertDay`).
-/

namespace AuditTrail

namespace LevelCounts

def get (c : LevelCounts) : Level → Nat
  | .error => c.error
  | .warn => c.warn
  | .info => c.info
  | .debug => c.debug

@[ext] theorem ext_get {c d : LevelCounts} (h : ∀ l, c.get l = d.get l) : c = d := by
  obtain ⟨e, w, i, g⟩ := c
  obtain ⟨e', w', i', g'⟩ := d
  have he := h .error
  have hw := h .warn
  have hi := h .info
  have hg := h .debug
  simp only [get] at he hw hi hg
  rw [he, hw, hi, hg]

@[simp] theorem get_empty (l : Level) : ({} : LevelCounts).get l = 0 := by
  cases l <;> rfl

theorem total_eq_get (c : LevelCounts) :
    c.total = c.get .error + c.get .warn + c.get .info + c.get .debug := rfl

theorem get_withCount (c : LevelCounts) (v : Value) (n : Nat) (l : Level) :
    (c.withCount v n).get l = if v.textOf? = some l.text then n else c.get l := by
  unfold withCount
  simp only [Value.looseEq_str]
  cases h : v.textOf? with
  | none => simp [Level.all]
  | some s =>
    by_cases he : s = "error" <;> by_cases hw : s = "warn" <;> by_cases hi : s = "info" <;>
      by_cases hd : s = "debug" <;> cases l <;> simp_all [Level.all, Level.text, get]

theorem get_foldl_withCount {β : Type} (level : β → Value) (count : β → Nat) (l : Level) :
    ∀ (xs : List β) (c : LevelCounts),
      (xs.foldl (fun c x => c.withCount (level x) (count x)) c).get l =
        (xs.filter (fun x => (level x).textOf? = some l.text)).foldl (fun _ x => count x)
          (c.get l)
  | [], _ => rfl
  | x :: xs, c => by
    rw [List.foldl_cons, get_foldl_withCount level count l xs, get_withCount, List.filter_cons]
    by_cases hx : (level x).textOf? = some l.text <;> simp [hx]

end LevelCounts

namespace DayTable

variable {d T : String} {v : Value} {n : Nat} {e : DailyStatistics} {es : List DailyStatistics}

theorem insertDay_of_lt (h : Value.textCmp d e.date = .lt) :
    insertDay d v n (e :: es) = ⟨d, LevelCounts.withCount {} v n⟩ :: e :: es := by
  simp [insertDay, h]

theorem insertDay_of_eq (h : Value.textCmp d e.date = .eq) :
    insertDay d v n (e :: es) = ⟨e.date, e.counts.withCount v n⟩ :: es := by
  simp [insertDay, h]

theorem insertDay_of_gt (h : Value.textCmp d e.date = .gt) :
    insertDay d v n (e :: es) = e :: insertDay d v n es := by
  simp [insertDay, h]

/-- A table of days whose texts strictly increase. -/
def Sorted (L : List DailyStatistics) : Prop :=
  L.Pairwise (fun e f => Value.textCmp e.date f.date = .lt)

def countsOf (L : List DailyStatistics) (T : String) : LevelCounts :=
  ((L.find? (·.date = T)).map (·.counts)).getD {}

@[simp] theorem countsOf_nil (T : String) : countsOf [] T = {} := rfl

theorem countsOf_cons_of_ne (h : e.date ≠ T) : countsOf (e :: es) T = countsOf es T := by
  simp [countsOf, h]

theorem mem_insertDay {f : DailyStatistics} :
    ∀ {L : List DailyStatistics}, f ∈ insertDay d v n L → f.date = d ∨ f ∈ L
  | [], h => by simp_all [insertDay]
  | e :: es, h => by
    cases hc : Value.textCmp d e.date with
    | lt =>
      rw [insertDay_of_lt hc, List.mem_cons] at h
      rcases h with rfl | h
      exacts [.inl rfl, .inr h]
    | eq =>
      rw [insertDay_of_eq hc, List.mem_cons] at h
      rcases h with rfl | h
      exacts [.inl (Value.textCmp_eq_eq_iff.1 hc).symm, .inr (List.mem_cons_of_mem e h)]
    | gt =>
      rw [insertDay_of_gt hc, List.mem_cons] at h
      rcases h with rfl | h
      · exact .inr List.mem_cons_self
      · exact (mem_insertDay h).imp_right (List.mem_cons_of_mem e)

theorem sorted_insertDay : ∀ {L : List DailyStatistics}, Sorted L → Sorted (insertDay d v n L)
  | [], _ => List.pairwise_singleton _ _
  | e :: es, hL => by
    have hL' := List.pairwise_cons.1 hL
    cases hc : Value.textCmp d e.date with
    | lt =>
      rw [insertDay_of_lt hc]
      refine List.Pairwise.cons (fun f hf => ?_) hL
      rcases List.mem_cons.1 hf with rfl | hf
      exacts [hc, Value.textCmp_lt_trans hc (hL'.1 f hf)]
    | eq =>
      rw [insertDay_of_eq hc]
      exact List.Pairwise.cons hL'.1 hL'.2
    | gt =>
      rw [insertDay_of_gt hc]
      refine List.Pairwise.cons (fun f hf => ?_) (sorted_insertDay hL'.2)
      rcases mem_insertDay hf with hd | hf
      · exact hd ▸ Value.textCmp_eq_gt_iff.1 hc
      · exact hL'.1 f hf

theorem sorted_foldl_insertDay {β : Type} (date : β → String) (level : β → Value)
    (count : β → Nat) : ∀ (xs : List β) {L : List DailyStatistics}, Sorted L →
      Sorted (xs.foldl (fun L x => insertDay (date x) (level x) (count x) L) L)
  | [], _, hL => hL
  | _ :: xs, _, hL => sorted_foldl_insertDay date level count xs (sorted_insertDay hL)

theorem find?_eq_none_of_lt (hL : Sorted (e :: es)) (h : Value.textCmp d e.date = .lt) :
    (e :: es).find? (·.date = d) = none := by
  rw [List.find?_eq_none]
  intro f hf hfd
  have hlt : Value.textCmp d f.date = .lt := by
    rcases List.mem_cons.1 hf with rfl | hf
    exacts [h, Value.textCmp_lt_trans h ((List.pairwise_cons.1 hL).1 f hf)]
  exact Value.textCmp_ne_of_lt hlt (of_decide_eq_true hfd).symm

theorem find?_insertDay (T : String) :
    ∀ {L : List DailyStatistics}, Sorted L →
      (insertDay d v n L).find? (·.date = T) =
        if d = T then some ⟨d, (countsOf L d).withCount v n⟩ else L.find? (·.date = T)
  | [], _ => by by_cases h : d = T <;> simp [insertDay, h]
  | e :: es, hL => by
    cases hc : Value.textCmp d e.date with
    | lt =>
      rw [insertDay_of_lt hc]
      by_cases h : d = T
      · subst h
        simp [countsOf, find?_eq_none_of_lt hL hc]
      · simp [h]
    | eq =>
      obtain rfl : d = e.date := Value.textCmp_eq_eq_iff.1 hc
      rw [insertDay_of_eq hc]
      have hcounts : countsOf (e :: es) e.date = e.counts := by simp [countsOf]
      by_cases h : e.date = T
      · rw [if_pos h, hcounts, List.find?_cons_of_pos (by simp [h])]
      · rw [if_neg h, List.find?_cons_of_neg (by simp [h]), List.find?_cons_of_neg (by simp [h])]
    | gt =>
      have hne : e.date ≠ d := fun h => by simp [h, Value.textCmp_self] at hc
      rw [insertDay_of_gt hc, List.find?_cons, List.find?_cons,
        find?_insertDay T (List.pairwise_cons.1 hL).2, countsOf_cons_of_ne hne]
      by_cases he : e.date = T
      · have h : d ≠ T := fun h => hne (he.trans h.symm)
        simp [he, h]
      · simp [he]

/-- What a sorted table holds for a text after rows are inserted one by one: when some rows
have that text, the day with the counts set by those rows in order. -/
theorem find?_foldl_insertDay {β : Type} (date : β → String) (level : β → Value)
    (count : β → Nat) (T : String) :
    ∀ (xs : List β) {L : List DailyStatistics}, Sorted L →
      (xs.foldl (fun L x => insertDay (date x) (level x) (count x) L) L).find? (·.date = T) =
        if xs.any (date · = T) then
          some ⟨T, (xs.filter (date · = T)).foldl (fun c x => c.withCount (level x) (count x))
            (countsOf L T)⟩
        else L.find? (·.date = T)
  | [], _, _ => rfl
  | x :: xs, L, hL => by
    have hL' := sorted_insertDay (d := date x) (v := level x) (n := count x) hL
    have hcounts : countsOf (insertDay (date x) (level x) (count x) L) T =
        if date x = T then (countsOf L (date x)).withCount (level x) (count x)
        else countsOf L T := by
      rw [countsOf, find?_insertDay T hL]
      split <;> rfl
    rw [List.foldl_cons, find?_foldl_insertDay date level count T xs hL', hcounts,
      find?_insertDay T hL]
    by_cases hx : date x = T
    · subst hx
      by_cases hxs : xs.any (date · = date x) <;> simp [hxs]
      simp only [Bool.not_eq_true, List.any_eq_false] at hxs
      rw [List.filter_eq_nil_iff.2 fun y hy => by simpa using hxs y hy]
      rfl
    · simp [hx]

theorem mem_iff_find? : ∀ {L : List DailyStatistics}, Sorted L →
    (e ∈ L ↔ L.find? (·.date = e.date) = some e)
  | [], _ => by simp
  | f :: L, hL => by
    have hL' := List.pairwise_cons.1 hL
    by_cases hf : f.date = e.date
    · -- `f` has the text of `e`, so `e` is no later day
      rw [List.find?_cons_of_pos (by simp [hf]), Option.some.injEq]
      refine ⟨fun he => ?_, fun h => h ▸ List.mem_cons_self⟩
      rcases List.mem_cons.1 he with rfl | he
      · rfl
      · exact absurd hf (Value.textCmp_ne_of_lt (hL'.1 e he))
    · rw [List.find?_cons_of_neg (by simp [hf]), ← mem_iff_find? hL'.2, List.mem_cons]
      exact ⟨fun h => h.resolve_left fun he => hf (he ▸ rfl), .inr⟩

theorem eq_of_find? {L M : List DailyStatistics} (hL : Sorted L) (hM : Sorted M)
    (h : ∀ T, L.find? (·.date = T) = M.find? (·.date = T)) : L = M := by
  have hmem : ∀ e, e ∈ L ↔ e ∈ M := fun e => by
    rw [mem_iff_find? hL, mem_iff_find? hM, h]
  have hnodup : ∀ {N : List DailyStatistics}, Sorted N → N.Nodup := fun hN =>
    hN.imp fun hlt heq => Value.textCmp_ne_of_lt hlt (congrArg DailyStatistics.date heq)
  refine List.Perm.eq_of_pairwise (fun a b _ _ hab hba => ?_) hL hM
    ((List.perm_ext_iff_of_nodup (hnodup hL) (hnodup hM)).2 hmem)
  rw [← Value.textCmp_eq_gt_iff] at hba
  rw [hab] at hba
  cases hba

end DayTable

end AuditTrail
