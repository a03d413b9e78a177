import AuditTrail.Proofs.StoreReads
import AuditTrail.Service.Listing

/-!
# Counting events per level

When every level is sortable, each level forms one run of the sorted levels, so the count the
summary reads for a level is the number of matching events with it
(`Collection.levelCounts_countOf`).
-/

namespace AuditTrail

namespace Sorting

section Pivot

variable {α : Type} {p : α → α → Bool} {S : α → Prop}

theorem eq_filter_append_of_sorted (hp : StrictWeakOn p S) {k : α} (hk : S k) :
    ∀ {ys : List α}, (∀ y ∈ ys, S y) → ys.Pairwise (fun a b => p b a = false) →
      ys = ys.filter (fun y => p y k) ++ ys.filter (fun y => tied p y k) ++
        ys.filter (fun y => p k y)
  | [], _, _ => rfl
  | x :: xs, hS, hsorted => by
    have hx : S x := hS x List.mem_cons_self
    have hxs : ∀ y ∈ xs, S y := fun y hy => hS y (List.mem_cons_of_mem x hy)
    rw [List.pairwise_cons] at hsorted
    have ih := eq_filter_append_of_sorted hp hk hxs hsorted.2
    -- no later item is before `x`, so nothing before the pivot follows an item that is not
    have hbelow : p x k = false → xs.filter (fun y => p y k) = [] := fun hxk =>
      List.filter_eq_nil_iff.2 fun y hy hyk => by
        have hyx := hsorted.1 y hy
        rw [hp.lt_of_lt_of_le (hxs y hy) hk hx hyk hxk] at hyx
        cases hyx
    by_cases hxk : p x k = true
    · -- `x` is before the pivot
      have hkx : p k x = false := hp.asymm x k hx hk hxk
      have htx : tied p x k = false := by simp [tied, hxk]
      rw [List.filter_cons_of_pos (p := fun y => p y k) hxk,
        List.filter_cons_of_neg (p := fun y => tied p y k) (by simp [htx]),
        List.filter_cons_of_neg (p := fun y => p k y) (by simp [hkx])]
      conv_lhs => rw [ih]
      rfl
    · rw [Bool.not_eq_true] at hxk
      by_cases hkx : p k x = true
      · -- `x` is after the pivot, and so is everything after it
        have htied : xs.filter (fun y => tied p y k) = [] :=
          List.filter_eq_nil_iff.2 fun y hy hyk => by
            rw [tied_eq_true] at hyk
            have hyx := hsorted.1 y hy
            rw [hp.lt_of_le_of_lt (hxs y hy) hk hx hyk.2 hkx] at hyx
            cases hyx
        have htx : tied p x k = false := by simp [tied, hkx]
        rw [List.filter_cons_of_neg (p := fun y => p y k) (by simp [hxk]),
          List.filter_cons_of_neg (p := fun y => tied p y k) (by simp [htx]),
          List.filter_cons_of_pos (p := fun y => p k y) hkx, hbelow hxk, htied]
        conv_lhs => rw [ih, hbelow hxk, htied]
        rfl
      · -- `x` is tied with the pivot
        rw [Bool.not_eq_true] at hkx
        have htx : tied p x k = true := by simp [tied, hxk, hkx]
        rw [List.filter_cons_of_neg (p := fun y => p y k) (by simp [hxk]),
          List.filter_cons_of_pos (p := fun y => tied p y k) htx,
          List.filter_cons_of_neg (p := fun y => p k y) (by simp [hkx]), hbelow hxk]
        conv_lhs => rw [ih, hbelow hxk]
        rfl

end Pivot

end Sorting

namespace Value

theorem looseEq_str (v : Value) (s : String) : looseEq v (.str s) = decide (v.textOf? = some s) := by
  cases v <;> simp [looseEq, textOf?, looseNumber?, Bool.beq_eq_decide_eq]

theorem looseEq_of_textOf? {a : Value} {s : String} (ha : a.textOf? = some s) (b : Value) :
    looseEq a b = decide (b.textOf? = some s) := by
  cases a <;> simp only [textOf?, reduceCtorEq, Option.some.injEq] at ha <;> subst ha <;>
    cases b <;> simp [looseEq, textOf?, looseNumber?, Bool.beq_eq_decide_eq, eq_comm]

theorem bothNaN_of_textOf? {a : Value} {s : String} (ha : a.textOf? = some s) (b : Value) :
    bothNaN a b = false := by
  cases a <;> simp_all [textOf?, bothNaN]

theorem textOf?_eq_of_sameEq {a b : Value} (h : sameEq a b = true) : a.textOf? = b.textOf? := by
  cases ha : a.textOf? with
  | some s =>
    rw [sameEq, bothNaN_of_textOf? ha, looseEq_of_textOf? ha, Bool.false_or,
      decide_eq_true_eq] at h
    exact h.symm
  | none =>
    cases hb : b.textOf? with
    | none => rfl
    | some s =>
      exfalso
      cases b <;> simp only [textOf?, reduceCtorEq, Option.some.injEq] at hb <;> subst hb <;>
        cases a <;> simp_all [sameEq, textOf?, bothNaN, looseEq, looseNumber?]

theorem sameEq_of_textOf? {a b : Value} {s : String} (ha : a.textOf? = some s)
    (hb : b.textOf? = some s) : sameEq a b = true := by
  rw [sameEq, looseEq_of_textOf? ha, hb]
  simp

theorem unhashable?_of_sortable {v : Value} (hv : v.Sortable) : v.unhashable? = none := by
  cases v <;> simp_all [Sortable, unhashable?]

theorem tied_str_iff {v : Value} (hv : v.Sortable) (s : String) :
    (storeBefore v (.str s) = false ∧ storeBefore (.str s) v = false) ↔ v.textOf? = some s := by
  constructor
  · rintro ⟨hvs, hsv⟩
    -- tied values have one rank, so `v` is a text, and the store takes it as equal
    have hrank := rank_eq_of_tied hvs hsv
    have hnaive : v.Naive := by cases v <;> simp_all [rank, Naive]
    have heq := storeEq_of_tied (b := .str s) hv trivial hnaive trivial hvs hsv
    cases v <;> simp_all [rank, storeEq, textOf?]
  · intro h
    have hself : Surrogate.textCmp s s = .eq := by simp [Surrogate.textCmp]
    cases v <;> simp_all [textOf?, storeBefore, kindBefore, rank]

end Value

def Record.hasLevel (d : Record) (l : Level) : Bool :=
  decide (((d.get? "level").getD .null).textOf? = some l.text)

namespace Collection

section Runs

variable {α : Type} (eq : α → α → Bool)

/-- One step of `runs`: an item joins the last run when it equals the run's first item, and
starts a run otherwise. -/
def runStep (acc : List (α × Nat)) (x : α) : List (α × Nat) :=
  match acc with
  | (k, n) :: rest => if eq k x then (k, n + 1) :: rest else (x, 1) :: acc
  | [] => [(x, 1)]

theorem runs_eq_foldl (xs : List α) : runs eq xs = (xs.foldl (runStep eq) []).reverse := rfl

theorem runStep_ne_nil (acc : List (α × Nat)) (x : α) : runStep eq acc x ≠ [] := by
  unfold runStep
  split
  · split <;> simp
  · simp

theorem runStep_append {R : List (α × Nat)} (hR : R ≠ []) (acc : List (α × Nat)) (x : α) :
    runStep eq (R ++ acc) x = runStep eq R x ++ acc := by
  obtain ⟨⟨k, n⟩, R', rfl⟩ := List.exists_cons_of_ne_nil hR
  by_cases h : eq k x = true <;> simp [runStep, h]

theorem foldl_runStep_append {R : List (α × Nat)} (hR : R ≠ []) (acc : List (α × Nat)) :
    ∀ xs : List α, xs.foldl (runStep eq) (R ++ acc) = xs.foldl (runStep eq) R ++ acc
  | [] => rfl
  | x :: xs => by
    rw [List.foldl_cons, List.foldl_cons, runStep_append eq hR]
    exact foldl_runStep_append (runStep_ne_nil eq R x) acc xs

theorem foldl_runStep_block {b : α} (rest : List (α × Nat)) :
    ∀ {B : List α} (n : Nat), (∀ y ∈ B, eq b y = true) →
      B.foldl (runStep eq) ((b, n) :: rest) = (b, n + B.length) :: rest
  | [], _, _ => rfl
  | y :: B, n, hB => by
    have hstep : runStep eq ((b, n) :: rest) y = (b, n + 1) :: rest := by
      simp [runStep, hB y List.mem_cons_self]
    rw [List.foldl_cons, hstep,
      foldl_runStep_block rest (n + 1) fun y' hy' => hB y' (List.mem_cons_of_mem y hy')]
    simp only [List.length_cons]
    congr 2
    omega

theorem runs_of_forall_eq {b : α} {B : List α} (hB : ∀ y ∈ B, eq b y = true) :
    runs eq (b :: B) = [(b, B.length + 1)] := by
  rw [runs_eq_foldl, List.foldl_cons]
  have hstart : runStep eq [] b = (b, 1) :: [] := rfl
  rw [hstart, foldl_runStep_block eq [] 1 hB, Nat.add_comm]
  rfl

theorem runs_ne_nil {xs : List α} (h : xs ≠ []) : runs eq xs ≠ [] := by
  obtain ⟨x, xs, rfl⟩ := List.exists_cons_of_ne_nil h
  rw [runs_eq_foldl, List.foldl_cons, Ne, List.reverse_eq_nil_iff]
  -- a fold of steps keeps a list of runs with a run in it
  have hgrow : ∀ (ys : List α) (R : List (α × Nat)), R ≠ [] → ys.foldl (runStep eq) R ≠ [] := by
    intro ys
    induction ys with
    | nil => exact fun R hR => hR
    | cons y ys ih => exact fun R _ => ih _ (runStep_ne_nil eq R y)
  exact hgrow xs _ (runStep_ne_nil eq [] x)

theorem runs_append {A B : List α} (h : ∀ a ∈ A, ∀ b ∈ B.head?, eq a b = false) :
    runs eq (A ++ B) = runs eq A ++ runs eq B := by
  cases B with
  | nil => simp [runs_eq_foldl]
  | cons b B =>
    rw [runs_eq_foldl, runs_eq_foldl, runs_eq_foldl, List.foldl_append, List.foldl_cons,
      List.foldl_cons]
    generalize hRA : A.foldl (runStep eq) [] = RA
    have hstart : runStep eq RA b = [(b, 1)] ++ RA := by
      cases RA with
      | nil => rfl
      | cons r rest =>
        have hrun : r ∈ runs eq A := by
          rw [runs_eq_foldl, hRA]
          simp
        simp [runStep, h r.1 (fst_mem_of_mem_runs hrun) b (by simp)]
    have hnil : runStep eq [] b = [(b, 1)] := rfl
    rw [hstart, hnil, foldl_runStep_append eq (List.cons_ne_nil _ _)]
    simp

/-- The runs keyed in a class of items that equal items share, where the class is a block of
the list, are the runs of the block. -/
theorem runs_filter_block {m : α → Bool} {A B C : List α}
    (hm : ∀ a ∈ A ++ B ++ C, ∀ b ∈ A ++ B ++ C, eq a b = true → m a = m b)
    (hA : ∀ a ∈ A, m a = false) (hB : ∀ b ∈ B, m b = true) (hC : ∀ c ∈ C, m c = false) :
    (runs eq (A ++ B ++ C)).filter (fun r => m r.1) = runs eq B := by
  have hout : ∀ {X : List α}, (∀ x ∈ X, m x = false) → (runs eq X).filter (fun r => m r.1) = [] :=
    fun hX => List.filter_eq_nil_iff.2 fun r hr => by simp [hX r.1 (fst_mem_of_mem_runs hr)]
  cases B with
  | nil =>
    rw [List.append_nil, hout fun x hx => (List.mem_append.1 hx).elim (hA x) (hC x)]
    rfl
  | cons b B' =>
    -- items of the class differ from the items around it, so the block's runs stand apart
    have hne : ∀ x ∈ A ++ b :: B' ++ C, ∀ y ∈ A ++ b :: B' ++ C, m x ≠ m y → eq x y = false :=
      fun x hx y hy hxy => by
        cases h : eq x y
        · rfl
        · exact absurd (hm x hx y hy h) hxy
    have hAB : ∀ a ∈ A, ∀ c ∈ (b :: B' ++ C).head?, eq a c = false := fun a ha c hc => by
      simp only [List.cons_append, List.head?_cons, Option.mem_def, Option.some.injEq] at hc
      subst hc
      exact hne a (List.mem_append_left C (List.mem_append_left _ ha)) b
        (List.mem_append_left C (List.mem_append_right A List.mem_cons_self))
        (by rw [hA a ha, hB b List.mem_cons_self]; simp)
    have hBC : ∀ x ∈ b :: B', ∀ c ∈ C.head?, eq x c = false := fun x hx c hc => by
      have hcC : c ∈ C := List.mem_of_mem_head? hc
      exact hne x (List.mem_append_left C (List.mem_append_right A hx)) c
        (List.mem_append_right _ hcC) (by rw [hB x hx, hC c hcC]; simp)
    rw [List.append_assoc, runs_append eq hAB, runs_append eq hBC, List.filter_append,
      List.filter_append, hout hA, hout hC, List.filter_eq_self.2 fun r hr => by
        simpa using hB r.1 (fst_mem_of_mem_runs hr)]
    simp

end Runs

section Counts

variable (m : Value → Bool) (hm : ∀ j c, Value.sameEq j c = true → m j = m c)
include hm

theorem filter_setCount (c : Value) (n : Nat) :
    ∀ {acc : List (Value × Nat)}, (m c = true → acc.filter (fun p => m p.1) = []) →
      (setCount c n acc).filter (fun p => m p.1) =
        acc.filter (fun p => m p.1) ++ (if m c then [(c, n)] else [])
  | [], _ => by by_cases h : m c = true <;> simp [setCount, h]
  | (j, k) :: rest, hfresh => by
    have hrest : m c = true → rest.filter (fun p => m p.1) = [] := fun h => by
      have hnil := hfresh h
      rw [List.filter_cons] at hnil
      split at hnil
      · cases hnil
      · exact hnil
    by_cases hjc : Value.sameEq j c = true
    · -- the entry of an equal key takes the count, and it is in the class only if `c` is
      have hmj := hm j c hjc
      cases hmc : m c with
      | false => simp [setCount, hjc, hmj, hmc]
      | true =>
        have hnil := hfresh hmc
        simp [hmj, hmc] at hnil
    · have ih := filter_setCount c n hrest
      simp only [setCount, hjc, Bool.false_eq_true, if_false, List.filter_cons, ih]
      split <;> simp

theorem filter_foldl_setCount :
    ∀ (rs acc : List (Value × Nat)),
      (acc.filter (fun p => m p.1) ++ rs.filter (fun p => m p.1)).length ≤ 1 →
      (rs.foldl (fun acc p => setCount p.1 p.2 acc) acc).filter (fun p => m p.1) =
        acc.filter (fun p => m p.1) ++ rs.filter (fun p => m p.1)
  | [], acc, _ => by simp
  | (c, n) :: rs, acc, hone => by
    have hfresh : m c = true → acc.filter (fun p => m p.1) = [] := fun hmc => by
      rw [List.filter_cons, if_pos hmc, List.length_append, List.length_cons] at hone
      exact List.eq_nil_of_length_eq_zero (by omega)
    have hstep := filter_setCount m hm c n hfresh
    rw [List.foldl_cons, filter_foldl_setCount rs _ (by
      rw [hstep, List.append_assoc]
      by_cases hmc : m c = true <;> simpa [List.filter_cons, hmc] using hone), hstep]
    by_cases hmc : m c = true <;> simp [hmc]

end Counts

theorem foldlM_eq_ok_foldl {α β ε : Type} {f : β → α → Except ε β} {g : β → α → β} :
    ∀ {xs : List α} (init : β), (∀ b x, x ∈ xs → f b x = .ok (g b x)) →
      xs.foldlM f init = .ok (xs.foldl g init)
  | [], _, _ => rfl
  | x :: xs, init, h => by
    rw [List.foldlM_cons, h init x List.mem_cons_self]
    exact foldlM_eq_ok_foldl (g init x) fun b y hy => h b y (List.mem_cons_of_mem x hy)

theorem countOf_eq (counts : List (Value × Nat)) (l : Level) :
    Summary.countOf counts l =
      ((counts.filter (fun p => Value.looseEq p.1 (.str l.text))).head?.map (·.2)).getD 0 := by
  rw [Summary.countOf, List.head?_filter]

variable {c : Collection} {cond : Cond} {M : List Record}

/-- When every matching level is sortable, the counts per level answer, and the count the
summary reads for a level is the number of matching events with that level. -/
theorem levelCounts_countOf (hsel : c.select cond = .ok M)
    (hlevel : ∀ d ∈ M, ((d.get? "level").getD .null).Sortable) :
    ∃ counts, c.levelCounts cond = .ok counts ∧
      ∀ l : Level, Summary.countOf counts l = (M.filter (·.hasLevel l)).length := by
  have hS : ∀ v ∈ M.map (fun d => (d.get? "level").getD .null), v.Sortable := by
    simpa using hlevel
  obtain ⟨sorted, hsorted, hstable⟩ := Sorting.sortByM_spec Value.strictWeakOn_storeBefore
    (fun a b ha hb => Value.sortLt_eq_ok ha hb) false _ hS
  have hSs : ∀ v ∈ sorted, v.Sortable := fun v hv => hS v (hstable.perm.mem_iff.1 hv)
  let count := fun (acc : List (Value × Nat)) (p : Value × Nat) => setCount p.1 p.2 acc
  refine ⟨(runs Value.sameEq sorted).foldl count [], ?_, fun l => ?_⟩
  · -- every run is keyed by a sortable level, which can be hashed
    simp only [levelCounts, hsel, hsorted, bind, Except.bind, pure, Except.pure]
    refine foldlM_eq_ok_foldl _ fun acc p hp => ?_
    obtain ⟨k, n⟩ := p
    have hk := Value.unhashable?_of_sortable (hSs k (fst_mem_of_mem_runs hp))
    simp only [hk]
    rfl
  · -- the levels with the text of `l` are one block of the sorted levels
    let k : Value := .str l.text
    let m := fun v : Value => Value.looseEq v k
    have hm : ∀ j c, Value.sameEq j c = true → m j = m c := fun j c h => by
      show Value.looseEq j (.str l.text) = Value.looseEq c (.str l.text)
      rw [Value.looseEq_str, Value.looseEq_str, Value.textOf?_eq_of_sameEq h]
    have hsort : sorted.Pairwise (fun a b => Value.storeBefore b a = false) := by
      simpa using hstable.sorted
    have hsplit := Sorting.eq_filter_append_of_sorted Value.strictWeakOn_storeBefore
      (k := k) trivial hSs hsort
    have htied : ∀ v ∈ sorted, Sorting.tied Value.storeBefore v k = m v := fun v hv => by
      have hiff := Value.tied_str_iff (hSs v hv) l.text
      show Sorting.tied Value.storeBefore v (.str l.text) = Value.looseEq v (.str l.text)
      rw [Value.looseEq_str]
      by_cases h : v.textOf? = some l.text
      · rw [decide_eq_true h]
        exact Sorting.tied_eq_true.2 (hiff.2 h)
      · rw [decide_eq_false h]
        cases ht : Sorting.tied Value.storeBefore v (.str l.text)
        · rfl
        · exact absurd (hiff.1 (Sorting.tied_eq_true.1 ht)) h
    generalize hA : sorted.filter (fun y => Value.storeBefore y k) = A at hsplit
    generalize hB : sorted.filter (fun y => Sorting.tied Value.storeBefore y k) = B at hsplit
    generalize hC : sorted.filter (fun y => Value.storeBefore k y) = C at hsplit
    have hAm : ∀ a ∈ A, m a = false := fun a ha => by
      rw [← hA, List.mem_filter] at ha
      rw [← htied a ha.1]
      simp [Sorting.tied, ha.2]
    have hCm : ∀ a ∈ C, m a = false := fun a ha => by
      rw [← hC, List.mem_filter] at ha
      rw [← htied a ha.1]
      simp [Sorting.tied, ha.2]
    have hBm : ∀ a ∈ B, m a = true := fun a ha => by
      rw [← hB, List.mem_filter] at ha
      rw [← htied a ha.1, ha.2]
    have hclass : ((runs Value.sameEq sorted).filter (fun p => m p.1)).map (·.2) =
        if B = [] then [] else [B.length] := by
      rw [hsplit, runs_filter_block Value.sameEq (fun a _ b _ h => hm a b h) hAm hBm hCm]
      cases B with
      | nil => rfl
      | cons b B' =>
        have hb := hBm b List.mem_cons_self
        have hsame : ∀ y ∈ B', Value.sameEq b y = true := fun y hy => by
          have hy' := hBm y (List.mem_cons_of_mem b hy)
          simp only [m, k, Value.looseEq_str, decide_eq_true_eq] at hy' hb
          exact Value.sameEq_of_textOf? hb hy'
        rw [runs_of_forall_eq Value.sameEq hsame]
        simp
    have hone : ((runs Value.sameEq sorted).filter (fun p => m p.1)).length ≤ 1 := by
      have hlen := congrArg List.length hclass
      rw [List.length_map] at hlen
      rw [hlen]
      split <;> simp
    have hfinal := filter_foldl_setCount m hm (runs Value.sameEq sorted) [] (by simpa using hone)
    have hcount : B.length = (M.filter (·.hasLevel l)).length := by
      rw [← hB, List.filter_congr fun v hv => htied v hv,
        (hstable.perm.filter m).length_eq, List.filter_map, List.length_map]
      congr 2
      funext d
      simp [m, k, Record.hasLevel, Value.looseEq_str]
    rw [countOf_eq, ← hcount]
    change (((List.filter (fun p => m p.1) ((runs Value.sameEq sorted).foldl count [])).head?).map
      (·.2)).getD 0 = B.length
    rw [hfinal, List.filter_nil, List.nil_append, ← List.head?_map, hclass]
    split <;> simp_all

end Collection

end AuditTrail
