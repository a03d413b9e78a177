import AuditTrail.Proofs.SortMerge

/-!
# The sort is a stable sort

Every step of the sort keeps its waiting runs tiled with stable sorts (`SortState.Sound`), so
the sort answers with the stable sort of its input (`sortByM_spec`).
-/

namespace AuditTrail.Sorting

variable {ε α : Type}

/-! ### Stretches of a list -/

def slice (l : List α) (start len : Nat) : List α := (l.drop start).take len

theorem slice_append_slice (l : List α) (a m n : Nat) :
    slice l a m ++ slice l (a + m) n = slice l a (m + n) := by
  rw [slice, slice, slice, List.take_add, List.drop_drop]

theorem take_append_slice (l : List α) (a m : Nat) : l.take a ++ slice l a m = l.take (a + m) := by
  rw [slice, List.take_add]

theorem length_slice {l : List α} {a m : Nat} (h : a + m ≤ l.length) :
    (slice l a m).length = m := by
  simp only [slice, List.length_take, List.length_drop]
  omega

theorem slice_take (l : List α) {a m n : Nat} (h : a + m ≤ n) :
    slice (l.take n) a m = slice l a m := by
  rw [slice, slice, List.drop_take, List.take_take, Nat.min_eq_left (by omega)]

theorem slice_of_eq_append {l pre mid post : List α} (h : l = pre ++ mid ++ post) :
    slice l pre.length mid.length = mid := by
  simp [slice, h]

theorem mem_of_mem_slice {l : List α} {a m : Nat} {x : α} (h : x ∈ slice l a m) : x ∈ l :=
  List.mem_of_mem_drop (List.mem_of_mem_take h)

theorem toList_extract_eq_slice (a : Array α) (i j : Nat) :
    (a.extract i j).toList = slice a.toList i (j - i) := by
  rw [Array.toList_extract, List.extract_eq_take_drop, slice]

theorem toList_splice (a : Array α) (start len : Nat) (part : Array α) :
    (splice a start len part).toList =
      a.toList.take start ++ part.toList ++ a.toList.drop (start + len) := by
  simp only [splice, Array.toList_append, Array.toList_extract, List.extract_eq_take_drop,
    List.drop_zero, Nat.sub_zero]
  rw [List.take_of_length_le (l := a.toList.drop (start + len)) (i := a.size - (start + len))
    (by simp)]

/-! ### Sorted runs -/

section Runs

variable (p : α → α → Bool) (S : α → Prop) (xs : List α)

/-- The waiting runs `rs`, the last first, tile the places before `start` with runs of at
least one item, and each holds the stable sort of what `xs` holds at its places. -/
def RunsSorted (items : List α) : List Run → Nat → Prop
  | [], start => start = 0
  | r :: rs, start => r.start + r.length = start ∧ 1 ≤ r.length ∧
      IsStableSort p S (slice xs r.start r.length) (slice items r.start r.length) ∧
      RunsSorted items rs r.start

variable {p S xs}

theorem RunsSorted.of_take_eq {items items' : List α} {rs : List Run} {n : Nat}
    (h : RunsSorted p S xs items rs n) (heq : items'.take n = items.take n) :
    RunsSorted p S xs items' rs n := by
  induction rs generalizing n with
  | nil => exact h
  | cons r rs ih =>
    obtain ⟨hend, hlen, hsort, hrs⟩ := h
    have hslice : slice items' r.start r.length = slice items r.start r.length := by
      rw [← slice_take items' (Nat.le_of_eq hend), heq, slice_take items (Nat.le_of_eq hend)]
    have htake : items'.take r.start = items.take r.start := by
      have := congrArg (List.take r.start) heq
      rwa [List.take_take, List.take_take, Nat.min_eq_left (by omega)] at this
    exact ⟨hend, hlen, hslice ▸ hsort, ih hrs htake⟩

end Runs

/-! ### Merging the last two waiting runs -/

section Merge

variable {p : α → α → Bool} {S : α → Prop} {lt : α → α → Except ε Bool} {d : α} {xs : List α}
variable (hp : StrictWeakOn p S) (hlt : ∀ x y, S x → S y → lt x y = pure (p x y))
variable (hxs : ∀ x ∈ xs, S x)
include hp hlt hxs

theorem mergeRuns_runsSorted {items : Array α} {r₁ r₂ : Run} {rs : List Run} {e : Nat}
    (hs : RunsSorted p S xs items.toList (r₂ :: r₁ :: rs) e) (he : e ≤ items.size)
    (hmem : ∀ x ∈ items.toList, S x) (mg : Nat) :
    ∃ r, mergeRuns lt d items r₁.start r₁.length r₂.length mg = pure r ∧
      RunsSorted p S xs r.1.toList ({ r₁ with length := r₁.length + r₂.length } :: rs) e ∧
      r.1.toList.drop e = items.toList.drop e ∧ r.1.size = items.size ∧
      ∀ x ∈ r.1.toList, S x := by
  obtain ⟨hend₂, hlen₂, hsort₂, hend₁, hlen₁, hsort₁, hrs⟩ := hs
  have he' : e ≤ items.toList.length := by simpa using he
  have hA : (slice items.toList r₁.start r₁.length).length = r₁.length := length_slice (by omega)
  have hB : (slice items.toList r₂.start r₂.length).length = r₂.length := length_slice (by omega)
  have hpre : (items.toList.take r₁.start).length = r₁.start := by simp; omega
  have hsplit : items.toList = items.toList.take r₁.start ++ slice items.toList r₁.start r₁.length
      ++ slice items.toList r₂.start r₂.length ++ items.toList.drop e := by
    rw [take_append_slice, hend₁, take_append_slice, hend₂, List.take_append_drop]
  obtain ⟨r, hr, hr'⟩ := mergeRuns_eq hp hlt mg hsplit (by omega) (by omega) hsort₁.sorted
    hsort₂.sorted (fun x hx => hmem x (mem_of_mem_slice hx))
    (fun x hx => hmem x (mem_of_mem_slice hx))
  rw [hpre, hA, hB] at hr
  have hmerged : (List.merge (slice items.toList r₁.start r₁.length)
      (slice items.toList r₂.start r₂.length) (notAfter p)).length = r₁.length + r₂.length := by
    rw [List.length_merge, hA, hB]
  refine ⟨r, hr, ⟨by simp; omega, by simp; omega, ?_, ?_⟩, ?_, ?_, ?_⟩
  · -- the merged run holds the merge of the two, the stable sort of both stretches
    have hslice := slice_of_eq_append hr'
    rw [hpre, hmerged] at hslice
    rw [show ({ r₁ with length := r₁.length + r₂.length } : Run).start = r₁.start from rfl,
      show ({ r₁ with length := r₁.length + r₂.length } : Run).length = r₁.length + r₂.length
        from rfl, hslice, ← slice_append_slice, hend₁]
    exact hsort₁.merge hp hsort₂ (fun x hx => hxs x (mem_of_mem_slice hx))
      (fun x hx => hxs x (mem_of_mem_slice hx))
  · -- the runs before keep their places
    refine hrs.of_take_eq ?_
    rw [hr', List.append_assoc, List.take_left' hpre]
  · rw [hr', List.drop_append, List.drop_eq_nil_of_le (by simp [hmerged]; omega)]
    simp [hmerged]
    omega
  · rw [← Array.length_toList, hr']
    simp only [List.length_append, hpre, hmerged, List.length_drop, Array.length_toList]
    omega
  · intro x hx
    rw [hr'] at hx
    simp only [List.mem_append, List.mem_merge] at hx
    rcases hx with (hx | hx | hx) | hx
    · exact hmem x (List.mem_of_mem_take hx)
    · exact hmem x (mem_of_mem_slice hx)
    · exact hmem x (mem_of_mem_slice hx)
    · exact hmem x (List.mem_of_mem_drop hx)

end Merge

/-! ### New runs -/

section NewRun

variable {p : α → α → Bool} {S : α → Prop}

theorem pairwise_of_adjacent {r : α → α → Prop}
    (htrans : ∀ a b c, S a → S b → S c → r a b → r b c → r a c) :
    ∀ {l : List α}, (∀ x ∈ l, S x) → (∀ i (h : i + 1 < l.length), r l[i] l[i + 1]) →
      l.Pairwise r
  | [], _, _ => List.Pairwise.nil
  | [_], _, _ => List.pairwise_singleton _ _
  | a :: b :: l, hS, h => by
    have hrest : (b :: l).Pairwise r := pairwise_of_adjacent htrans
      (fun x hx => hS x (List.mem_cons_of_mem a hx))
      (fun i hi => h (i + 1) (by simp only [List.length_cons] at hi ⊢; omega))
    refine List.Pairwise.cons (fun y hy => ?_) hrest
    have hab : r a b := h 0 (by simp)
    rcases List.mem_cons.1 hy with rfl | hy
    · exact hab
    · exact htrans a b y (hS a (by simp)) (hS b (by simp)) (hS y (by simp [hy])) hab
        (List.rel_of_pairwise_cons hrest hy)

theorem isStableSort_run (hp : StrictWeakOn p S) {R : List α} (hS : ∀ x ∈ R, S x) {len : Nat}
    (descending : Bool)
    (hq : ∀ l (h : l < R.length), 1 ≤ l → l < len → p R[l] R[l - 1] = descending) :
    IsStableSort p S (R.take len) (if descending then (R.take len).reverse else R.take len) := by
  have hS' : ∀ x ∈ R.take len, S x := fun x hx => hS x (List.mem_of_mem_take hx)
  have hstep : ∀ i (h : i + 1 < (R.take len).length),
      p (R.take len)[i + 1] (R.take len)[i] = descending := by
    intro i h
    simp only [List.length_take] at h
    simpa using hq (i + 1) (by omega) (by omega) (by omega)
  cases descending with
  | false =>
    exact IsStableSort.of_sorted <| pairwise_of_adjacent (r := fun a b => p b a = false)
      (fun a b c ha hb hc hab hbc => hp.trans a b c ha hb hc hab hbc) hS' hstep
  | true =>
    -- a strictly descending run has no ties, and reversed it is sorted
    exact IsStableSort.reverse_of_descending hp hS' <|
      pairwise_of_adjacent (r := fun a b => p b a = true) (fun a b c ha hb hc hab hbc => hp.lt_trans hc hb ha hbc hab) hS' hstep

end NewRun

/-! ### Sound sort states -/

/-- A sort of `xs` in progress whose runs are found up to `start`: the waiting runs tile the
places before `start`, the items from `start` on are `rest`, and the items are as many as
`xs`'s and all satisfy `S`. -/
structure SortState.Sound (p : α → α → Bool) (S : α → Prop) (xs : List α) (start : Nat)
    (rest : List α) (s : SortState α) : Prop where
  runs : RunsSorted p S xs s.items.toList s.waiting start
  after : s.items.toList.drop start = rest
  start_le : start ≤ xs.length
  size : s.items.size = xs.length
  mem : ∀ x ∈ s.items.toList, S x

section Steps

variable {p : α → α → Bool} {S : α → Prop} {lt : α → α → Except ε Bool} {d : α} {xs : List α}
variable (hp : StrictWeakOn p S) (hlt : ∀ x y, S x → S y → lt x y = pure (p x y))
variable (hxs : ∀ x ∈ xs, S x)
variable {start : Nat} {rest : List α}
include hp hlt hxs

theorem mergeLastTwo_sound {s : SortState α} (hs : s.Sound p S xs start rest) {r₁ r₂ : Run}
    {rs : List Run} (hw : s.waiting = r₂ :: r₁ :: rs) :
    ∃ s', mergeLastTwo lt d s = pure s' ∧ s'.Sound p S xs start rest ∧
      s'.waiting = { r₁ with length := r₁.length + r₂.length } :: rs := by
  have hruns := hs.runs
  rw [hw] at hruns
  obtain ⟨⟨items, mg⟩, hr, hruns', hdrop, hsize, hmem⟩ := mergeRuns_runsSorted (d := d) hp hlt
    hxs hruns (by rw [hs.size]; exact hs.start_le) hs.mem s.minGallop
  refine ⟨⟨items, { r₁ with length := r₁.length + r₂.length } :: rs, mg⟩, ?_, ⟨hruns', hdrop.trans hs.after, hs.start_le, hsize.trans hs.size, hmem⟩, rfl⟩
  unfold mergeLastTwo
  rw [hw]
  dsimp only
  rw [hr]
  rfl

theorem mergeBelowLast_sound {s : SortState α} (hs : s.Sound p S xs start rest)
    {r₁ r₂ r₃ : Run} {rs : List Run} (hw : s.waiting = r₃ :: r₂ :: r₁ :: rs) :
    ∃ s', mergeBelowLast lt d s = pure s' ∧ s'.Sound p S xs start rest ∧
      s'.waiting = r₃ :: { r₁ with length := r₁.length + r₂.length } :: rs := by
  have hruns := hs.runs
  rw [hw] at hruns
  obtain ⟨hend₃, hlen₃, hsort₃, hruns₂⟩ := hruns
  have he : r₃.start ≤ s.items.size := by have := hs.size; have := hs.start_le; omega
  obtain ⟨⟨items, mg⟩, hr, hruns', hdrop, hsize, hmem⟩ := mergeRuns_runsSorted (d := d) hp hlt
    hxs hruns₂ he hs.mem s.minGallop
  have hslice₃ : slice items.toList r₃.start r₃.length =
      slice s.items.toList r₃.start r₃.length := by
    rw [slice, slice, hdrop]
  have hafter : items.toList.drop start = rest := by
    rw [← hend₃, ← List.drop_drop, hdrop, List.drop_drop, hend₃, hs.after]
  refine ⟨⟨items, r₃ :: { r₁ with length := r₁.length + r₂.length } :: rs, mg⟩, ?_, ⟨⟨hend₃, hlen₃, hslice₃ ▸ hsort₃, hruns'⟩, hafter, hs.start_le, hsize.trans hs.size, hmem⟩,
    rfl⟩
  unfold mergeBelowLast
  rw [hw]
  dsimp only
  rw [hr]
  rfl

theorem settle_sound (power fuel : Nat) : ∀ {s : SortState α}, s.Sound p S xs start rest →
    ∃ s', settle lt d power fuel s = pure s' ∧ s'.Sound p S xs start rest := by
  induction fuel with
  | zero => exact fun hs => ⟨_, rfl, hs⟩
  | succ fuel ih =>
    intro s hs
    rw [settle]
    split
    next r₂ r₁ rs hw =>
      split
      · obtain ⟨s₁, h₁, hs₁, -⟩ := mergeLastTwo_sound (d := d) hp hlt hxs hs hw
        rw [h₁, pure_bind]
        exact ih hs₁
      · exact ⟨_, rfl, hs⟩
    · exact ⟨_, rfl, hs⟩

theorem makeRoom_sound (len : Nat) {s : SortState α} (hs : s.Sound p S xs start rest) :
    ∃ s', makeRoom lt d len s = pure s' ∧ s'.Sound p S xs start rest := by
  unfold makeRoom
  split
  · exact ⟨_, rfl, hs⟩
  · dsimp only
    obtain ⟨s₁, h₁, hs₁⟩ := settle_sound (d := d) hp hlt hxs
      (boundaryPower _ _ len s.items.size) s.waiting.length hs
    rw [h₁, pure_bind]
    split
    next last rs hw =>
      -- the last run takes a new power, which the runs do not look at
      have hruns := hs₁.runs
      rw [hw] at hruns
      exact ⟨_, rfl, ⟨hruns, hs₁.after, hs₁.start_le, hs₁.size, hs₁.mem⟩⟩
    · exact ⟨_, rfl, hs₁⟩

theorem collapse_sound (fuel : Nat) : ∀ {s : SortState α}, s.Sound p S xs start rest →
    s.waiting.length ≤ fuel + 1 →
    ∃ s', collapse lt d fuel s = pure s' ∧ s'.Sound p S xs start rest ∧ s'.waiting.length ≤ 1 := by
  induction fuel with
  | zero => exact fun hs hlen => ⟨_, rfl, hs, hlen⟩
  | succ fuel ih =>
    intro s hs hlen
    rw [collapse]
    rcases hw : s.waiting with _ | ⟨r₃, _ | ⟨r₂, _ | ⟨r₁, rs⟩⟩⟩
    · exact ⟨_, rfl, hs, by simp [hw]⟩
    · exact ⟨_, rfl, hs, by simp [hw]⟩
    · obtain ⟨s₁, h₁, hs₁, hw₁⟩ := mergeLastTwo_sound (d := d) hp hlt hxs hs hw
      dsimp only
      rw [h₁, pure_bind]
      exact ih hs₁ (by simp [hw₁])
    · rw [hw] at hlen
      dsimp only
      split
      · obtain ⟨s₁, h₁, hs₁, hw₁⟩ := mergeBelowLast_sound (d := d) hp hlt hxs hs hw
        rw [h₁, pure_bind]
        exact ih hs₁ (by simp only [hw₁, List.length_cons] at hlen ⊢; omega)
      · obtain ⟨s₁, h₁, hs₁, hw₁⟩ := mergeLastTwo_sound (d := d) hp hlt hxs hs hw
        rw [h₁, pure_bind]
        exact ih hs₁ (by simp only [hw₁, List.length_cons] at hlen ⊢; omega)

/-- Putting a stable sort of the next `len` items in their place, making room, and letting
them wait as a run keeps the sort sound, `len` places further on. -/
theorem pushRun_sound {s : SortState α} (hs : s.Sound p S xs start (xs.drop start)) {len : Nat}
    {run : Array α} (hlen₁ : 1 ≤ len) (hlen : start + len ≤ xs.length)
    (hrun : IsStableSort p S ((xs.drop start).take len) run.toList) :
    ∃ s₁, makeRoom lt d len { s with items := splice s.items start len run } = pure s₁ ∧
      ({ s₁ with waiting := { start, length := len } :: s₁.waiting } : SortState α).Sound p S xs
        (start + len) (xs.drop (start + len)) := by
  have hsize : s.items.toList.length = xs.length := by simpa using hs.size
  have hrunlen : run.toList.length = len := by rw [hrun.perm.length_eq]; simp; omega
  have hdrop : s.items.toList.drop (start + len) = xs.drop (start + len) := by
    rw [← List.drop_drop, hs.after, List.drop_drop]
  have hpre : (s.items.toList.take start).length = start := by
    have := hs.start_le
    simp only [List.length_take]
    omega
  have hitems : (splice s.items start len run).toList =
      s.items.toList.take start ++ run.toList ++ xs.drop (start + len) := by
    rw [toList_splice, hdrop]
  have hs' : ({ s with items := splice s.items start len run } : SortState α).Sound p S xs start
      (run.toList ++ xs.drop (start + len)) := by
    refine ⟨hs.runs.of_take_eq ?_, ?_, hs.start_le, ?_, ?_⟩
    · rw [hitems, List.append_assoc, List.take_left' hpre]
    · rw [hitems, List.append_assoc, List.drop_left' hpre]
    · rw [← Array.length_toList, hitems]
      simp only [List.length_append, hpre, hrunlen, List.length_drop]
      omega
    · intro x hx
      rw [hitems] at hx
      simp only [List.mem_append] at hx
      rcases hx with (hx | hx) | hx
      · exact hs.mem x (List.mem_of_mem_take hx)
      · exact hxs x (List.mem_of_mem_drop (List.mem_of_mem_take (hrun.mem_iff.1 hx)))
      · exact hxs x (List.mem_of_mem_drop hx)
  obtain ⟨s₁, h₁, hs₁⟩ := makeRoom_sound (d := d) hp hlt hxs len hs'
  refine ⟨s₁, h₁, ⟨⟨rfl, hlen₁, ?_, hs₁.runs⟩, ?_, hlen, hs₁.size, hs₁.mem⟩⟩
  · -- the new run holds the stable sort of its stretch
    have hslice : slice s₁.items.toList start len = run.toList := by
      rw [slice, hs₁.after, List.take_left' hrunlen]
    rw [hslice]
    exact hrun
  · show s₁.items.toList.drop (start + len) = _
    rw [← List.drop_drop, hs₁.after, List.drop_left' hrunlen]

theorem findRuns_sound (minimum fuel : Nat) : ∀ {start : Nat} {s : SortState α},
    s.Sound p S xs start (xs.drop start) → xs.length ≤ start + fuel →
    ∃ s', findRuns lt d minimum fuel start s = pure s' ∧ s'.Sound p S xs xs.length [] := by
  induction fuel with
  | zero =>
    intro start s hs hfuel
    obtain rfl : start = xs.length := by have := hs.start_le; omega
    exact ⟨s, rfl, by simpa using hs⟩
  | succ fuel ih =>
    intro start s hs hfuel
    have hsize := hs.size
    rw [findRuns]
    by_cases hleft : s.items.size - start = 0
    · -- nothing is left: the runs tile the list
      obtain rfl : start = xs.length := by have := hs.start_le; omega
      refine ⟨s, ?_, by simpa using hs⟩
      simp only [hleft, beq_self_eq_true, if_true]
    simp only [hleft, beq_iff_eq, if_false]
    have hget : ∀ i (hi : i < (xs.drop start).length),
        s.items.getD (start + i) d = (xs.drop start)[i] := by
      intro i hi
      rw [getD_eq_getElem_drop (by simp at hi; omega) (by rw [hs.after]; exact hi)]
      exact List.getElem_of_eq hs.after _
    have hSrest : ∀ x ∈ xs.drop start, S x := fun x hx => hxs x (List.mem_of_mem_drop hx)
    have hlenrest : (xs.drop start).length = s.items.size - start := by simp; omega
    obtain ⟨len, descending, hrun, hlen₁, hlen, hq⟩ := runAtFront_spec lt
      (fun i => s.items.getD (start + i) d) (s.items.size - start)
      (fun l => p (s.items.getD (start + l) d) (s.items.getD (start + (l - 1)) d))
      (fun l hl₁ hl₂ => hlt _ _
        (hget l (by omega) ▸ hSrest _ (List.getElem_mem _))
        (hget (l - 1) (by omega) ▸ hSrest _ (List.getElem_mem _))) (by omega)
    rw [hrun, pure_bind]
    have hsorted := isStableSort_run hp hSrest descending fun l hl hl₁ hl₂ => by
      rw [← hget l hl, ← hget (l - 1) (by omega)]
      exact hq l hl₁ hl₂
    have hfront : (s.items.extract start (start + len)).toList = (xs.drop start).take len := by
      rw [toList_extract_eq_slice, slice, hs.after, Nat.add_sub_cancel_left]
    have hrun₀ : IsStableSort p S ((xs.drop start).take len)
        (if descending then (s.items.extract start (start + len)).reverse
          else s.items.extract start (start + len)).toList := by
      cases descending with
      | false => simpa only [Bool.false_eq_true, ↓reduceIte, hfront] using hsorted
      | true => simpa only [↓reduceIte, Array.toList_reverse, hfront] using hsorted
    dsimp only
    split
    · -- a short run is extended by inserting the next items into it
      rename_i hshort
      have hmore : (s.items.extract (start + len)
          (start + min minimum (s.items.size - start))).toList =
            ((xs.drop start).drop len).take (min minimum (s.items.size - start) - len) := by
        rw [toList_extract_eq_slice, Nat.add_sub_add_left, slice, ← List.drop_drop, hs.after]
      rw [hmore]
      obtain ⟨r, hr, hrsort⟩ := binaryInsertAll_spec hp hlt
        (((xs.drop start).drop len).take (min minimum (s.items.size - start) - len)) hrun₀
        (fun x hx => hSrest x (List.mem_of_mem_take hx))
        (fun x hx => hSrest x (List.mem_of_mem_drop (List.mem_of_mem_take hx)))
      rw [hr]
      simp only [pure_bind]
      rw [← List.take_add, Nat.add_sub_cancel' (by omega), ← @List.toList_toArray _ r] at hrsort
      obtain ⟨s₁, h₁, hs₁⟩ := pushRun_sound (d := d) hp hlt hxs hs (by omega) (by omega) hrsort
      rw [h₁, pure_bind]
      exact ih hs₁ (by omega)
    · obtain ⟨s₁, h₁, hs₁⟩ := pushRun_sound (d := d) hp hlt hxs hs hlen₁ (by omega) hrun₀
      simp only [pure_bind]
      rw [h₁, pure_bind]
      exact ih hs₁ (by omega)

end Steps

/-! ### The sort -/

theorem SortState.Sound.isStableSort {p : α → α → Bool} {S : α → Prop} {xs : List α}
    {s : SortState α} (hs : s.Sound p S xs xs.length []) (hne : xs ≠ [])
    (hone : s.waiting.length ≤ 1) : IsStableSort p S xs s.items.toList := by
  have hruns := hs.runs
  have hsize : s.items.toList.length = xs.length := by simpa using hs.size
  rcases hw : s.waiting with _ | ⟨r, _ | ⟨r', rs⟩⟩
  · rw [hw] at hruns
    exact absurd (List.eq_nil_of_length_eq_zero hruns) hne
  · rw [hw] at hruns
    obtain ⟨hend, -, hsort, hstart⟩ := hruns
    have hstart : r.start = 0 := hstart
    rw [hstart, Nat.zero_add] at hend
    rwa [hstart, hend, slice, slice, List.drop_zero, List.drop_zero, List.take_length,
      ← hsize, List.take_length] at hsort
  · rw [hw] at hone
    simp at hone

section WholeSort

variable {p : α → α → Bool} {S : α → Prop} {lt : α → α → Except ε Bool}
variable (hp : StrictWeakOn p S) (hlt : ∀ x y, S x → S y → lt x y = pure (p x y))
include hp hlt

theorem sortAscendingM_spec (xs : List α) (hxs : ∀ x ∈ xs, S x) :
    ∃ ys, sortAscendingM lt xs = pure ys ∧ IsStableSort p S xs ys := by
  cases xs with
  | nil => exact ⟨[], rfl, IsStableSort.of_sorted List.Pairwise.nil⟩
  | cons d tl =>
    have hs₀ : SortState.Sound p S (d :: tl) 0 ((d :: tl).drop 0)
        ⟨(d :: tl).toArray, [], gallopLimit⟩ :=
      ⟨rfl, rfl, Nat.zero_le _, rfl, by simpa using hxs⟩
    obtain ⟨s₁, h₁, hs₁⟩ := findRuns_sound (d := d) hp hlt hxs
      (minRun (d :: tl).toArray.size) (d :: tl).toArray.size hs₀ (by simp)
    obtain ⟨s₂, h₂, hs₂, hone⟩ := collapse_sound (d := d) hp hlt hxs s₁.waiting.length hs₁
      (Nat.le_succ _)
    refine ⟨s₂.items.toList, ?_, hs₂.isStableSort (List.cons_ne_nil d tl) hone⟩
    unfold sortAscendingM
    dsimp only
    rw [h₁, pure_bind, h₂, pure_bind]

/-- The sort, reversing or not, answers with the stable sort of its input by the order it is
asked for, or by the opposite order when it reverses. -/
theorem sortByM_spec (reverse : Bool) (xs : List α) (hxs : ∀ x ∈ xs, S x) :
    ∃ ys, sortByM lt reverse xs = pure ys ∧
      IsStableSort (fun a b => if reverse then p b a else p a b) S xs ys := by
  cases reverse with
  | false => simpa [sortByM] using sortAscendingM_spec hp hlt xs hxs
  | true =>
    obtain ⟨ys, hys, hsort⟩ := sortAscendingM_spec hp hlt xs.reverse (by simpa using hxs)
    refine ⟨ys.reverse, ?_, by simpa using hsort.reverse⟩
    simp only [sortByM, if_true, hys]
    rfl

end WholeSort

end AuditTrail.Sorting
