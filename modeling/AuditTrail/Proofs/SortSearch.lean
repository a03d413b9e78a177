import AuditTrail.Sorting
import AuditTrail.Proofs.StableSort

/-!
# What the searches of the sort find

Binary search and the gallops find the boundary below which a question about a sorted run is
answered yes (`gallopLeft_eq`, `gallopRight_eq`).
-/

namespace AuditTrail.Sorting

variable {ε α : Type}

theorem exists_boundary (q : Nat → Bool) (n : Nat)
    (hq : ∀ i j, i ≤ j → j < n → q j = true → q i = true) :
    ∃ k ≤ n, ∀ i < n, q i = decide (i < k) := by
  induction n with
  | zero => exact ⟨0, Nat.le_refl 0, fun i hi => absurd hi (Nat.not_lt_zero i)⟩
  | succ n ih =>
    obtain ⟨k, hkn, hk⟩ := ih (fun i j hij hj => hq i j hij (by omega))
    cases hqn : q n with
    | false =>
      refine ⟨k, by omega, fun i hi => ?_⟩
      rcases Nat.lt_succ_iff_lt_or_eq.1 hi with hi | rfl
      · exact hk i hi
      · simp only [hqn, Bool.false_eq, decide_eq_false_iff_not, Nat.not_lt]
        exact hkn
    | true =>
      refine ⟨n + 1, Nat.le_refl _, fun i hi => ?_⟩
      rw [hq i n (by omega) (by omega) hqn]
      simp [hi]

theorem narrow_eq (g : Nat → Except ε Bool) {k lo hi : Nat} (hlo : lo ≤ k) (hhi : k ≤ hi)
    (hg : ∀ i, lo ≤ i → i < hi → g i = pure (decide (i < k))) : narrow g lo hi = pure k := by
  fun_induction narrow g lo hi with
  | case1 lo hi hlt mid ihUp ihDown =>
    rw [hg mid (by omega) (by omega), pure_bind]
    by_cases hm : mid < k
    · simp only [hm, decide_true, if_true]
      exact ihUp (by omega) hhi (fun i h₁ h₂ => hg i (by omega) h₂)
    · simp only [hm, decide_false, Bool.false_eq_true, if_false]
      exact ihDown hlo (by omega) (fun i h₁ h₂ => hg i h₁ (by omega))
  | case2 lo hi hlt =>
    congr
    omega

theorem widen_spec (more : Nat → Except ε Bool) (limit : Nat) {k : Nat} (hk : k ≤ limit)
    (hmore : ∀ o, o < limit → more o = pure (decide (o < k))) (last ofs : Nat)
    (hlast : last < k) :
    ∃ last' ofs', widen more limit last ofs = pure (last', ofs') ∧ last' < k ∧ k ≤ ofs' := by
  fun_induction widen more limit last ofs with
  | case1 last ofs hofs ih =>
    rw [hmore ofs hofs, pure_bind]
    by_cases hk' : ofs < k
    · simp only [hk', decide_true, if_true]
      exact ih hk'
    · simp only [hk', decide_false, Bool.false_eq_true, if_false]
      exact ⟨last, ofs, rfl, hlast, by omega⟩
  | case2 last ofs hofs =>
    exact ⟨last, ofs, rfl, hlast, by omega⟩

/-- From a hint inside the run, `gallopLeft` finds the boundary of "the item is before the
key". -/
theorem gallopLeft_eq (lt : α → α → Except ε Bool) (key : α) (get : Nat → α) {n hint k : Nat}
    (hhint : hint < n) (hk : k ≤ n)
    (hlt : ∀ i, i < n → lt (get i) key = pure (decide (i < k))) :
    gallopLeft lt key get n hint = pure k := by
  rw [gallopLeft.eq_1, hlt hint hhint, pure_bind]
  by_cases hh : hint < k
  · -- the key is past the hint: gallop up
    simp only [hh, decide_true, if_true]
    obtain ⟨last, ofs, hw, hlast, hofs⟩ := widen_spec (fun o => lt (get (hint + o)) key)
      (n - hint) (k := k - hint) (by omega)
      (fun o ho => by rw [hlt _ (by omega)]; exact congrArg pure (decide_eq_decide.2 (by omega)))
      0 1 (by omega)
    rw [hw, pure_bind]
    exact narrow_eq _ (by omega) (by omega) (fun i _ _ => hlt i (by omega))
  · -- the key is at the hint or before it: gallop down
    simp only [hh, decide_false, Bool.false_eq_true, if_false]
    obtain ⟨last, ofs, hw, hlast, hofs⟩ :=
      widen_spec (fun o => do return !(← lt (get (hint - o)) key))
        (hint + 1) (k := hint + 1 - k) (by omega)
        (fun o ho => by
          rw [hlt _ (by omega), pure_bind, ← decide_not]
          exact congrArg pure (decide_eq_decide.2 (by omega)))
        0 1 (by omega)
    rw [hw, pure_bind]
    exact narrow_eq _ (by omega) (by omega) (fun i _ _ => hlt i (by omega))

theorem gallopRight_eq (lt : α → α → Except ε Bool) (key : α) (get : Nat → α) {n hint k : Nat}
    (hhint : hint < n) (hk : k ≤ n)
    (hlt : ∀ i, i < n → lt key (get i) = pure (decide (k ≤ i))) :
    gallopRight lt key get n hint = pure k := by
  have hnot : ∀ i, i < n → (do return !(← lt key (get i)) : Except ε Bool) =
      pure (decide (i < k)) := by
    intro i hi
    rw [hlt i hi, pure_bind, ← decide_not]
    exact congrArg pure (decide_eq_decide.2 (by omega))
  rw [gallopRight.eq_1, hlt hint hhint, pure_bind]
  by_cases hh : k ≤ hint
  · -- the key is before the item at the hint: gallop down
    simp only [hh, decide_true, if_true]
    obtain ⟨last, ofs, hw, hlast, hofs⟩ := widen_spec (fun o => lt key (get (hint - o)))
      (hint + 1) (k := hint + 1 - k) (by omega)
      (fun o ho => by rw [hlt _ (by omega)]; exact congrArg pure (decide_eq_decide.2 (by omega)))
      0 1 (by omega)
    rw [hw, pure_bind]
    exact narrow_eq _ (by omega) (by omega) (fun i _ _ => hnot i (by omega))
  · -- the key is not before the item at the hint: gallop up
    simp only [hh, decide_false, Bool.false_eq_true, if_false]
    obtain ⟨last, ofs, hw, hlast, hofs⟩ :=
      widen_spec (fun o => do return !(← lt key (get (hint + o))))
        (n - hint) (k := k - hint) (by omega)
        (fun o ho => by
          rw [hnot _ (by omega)]
          exact congrArg pure (decide_eq_decide.2 (by omega)))
        0 1 (by omega)
    rw [hw, pure_bind]
    exact narrow_eq _ (by omega) (by omega) (fun i _ _ => hnot i (by omega))

theorem insertionPoint_eq (lt : α → α → Except ε Bool) (sorted : List α) (x : α)
    {k lo hi : Nat} (hhi : hi ≤ sorted.length) (hlo : lo ≤ k) (hk : k ≤ hi)
    (hlt : ∀ i y, lo ≤ i → i < hi → sorted[i]? = some y → lt x y = pure (decide (k ≤ i))) :
    insertionPoint lt sorted x lo hi = pure k := by
  fun_induction insertionPoint lt sorted x lo hi with
  | case1 lo hi hlo' p y hy ihDown ihUp =>
    rw [hlt p y (by omega) (by omega) hy, pure_bind]
    by_cases hp : k ≤ p
    · simp only [hp, decide_true, if_true]
      exact ihDown (by omega) hlo hp (fun i y hi₁ hi₂ hiy => hlt i y hi₁ (by omega) hiy)
    · simp only [hp, decide_false, Bool.false_eq_true, if_false]
      exact ihUp hhi (by omega) hk (fun i y hi₁ hi₂ hiy => hlt i y (by omega) hi₂ hiy)
  | case2 lo hi hlo' p hp =>
    rw [List.getElem?_eq_none_iff] at hp
    omega
  | case3 lo hi hlo' =>
    congr
    omega

theorem runEnd_spec (lt : α → α → Except ε Bool) (get : Nat → α) (descending : Bool)
    (count : Nat) (q : Nat → Bool)
    (hq : ∀ l, 1 ≤ l → l < count → lt (get l) (get (l - 1)) = pure (q l)) (i : Nat)
    (hi : 1 ≤ i) :
    ∃ j, runEnd lt get descending count i = pure j ∧ i ≤ j ∧ (i ≤ count → j ≤ count) ∧
      ∀ l, i ≤ l → l < j → q l = descending := by
  fun_induction runEnd lt get descending count i with
  | case1 i hic ih =>
    rw [hq i hi hic, pure_bind]
    by_cases hd : q i = descending
    · simp only [hd, beq_self_eq_true, if_true]
      obtain ⟨j, hj, hij, hjc, hl⟩ := ih (by omega)
      refine ⟨j, hj, by omega, fun _ => hjc (by omega), fun l hl₁ hl₂ => ?_⟩
      rcases Nat.eq_or_lt_of_le hl₁ with rfl | hl₁
      · exact hd
      · exact hl l hl₁ hl₂
    · have hne : (q i == descending) = false := by simpa using hd
      simp only [hne, Bool.false_eq_true, if_false]
      exact ⟨i, rfl, Nat.le_refl i, fun _ => by omega, fun l hl₁ hl₂ => by omega⟩
  | case2 i hic =>
    exact ⟨i, rfl, Nat.le_refl i, fun h => h, fun l hl₁ hl₂ => by omega⟩

theorem runAtFront_spec (lt : α → α → Except ε Bool) (get : Nat → α) (count : Nat)
    (q : Nat → Bool) (hq : ∀ l, 1 ≤ l → l < count → lt (get l) (get (l - 1)) = pure (q l))
    (hcount : 1 ≤ count) :
    ∃ len descending, runAtFront lt get count = pure (len, descending) ∧ 1 ≤ len ∧
      len ≤ count ∧ ∀ l, 1 ≤ l → l < len → q l = descending := by
  unfold runAtFront
  by_cases hc : count ≤ 1
  · rw [if_pos hc]
    exact ⟨count, false, rfl, hcount, Nat.le_refl _, fun l hl₁ hl₂ => by omega⟩
  · rw [if_neg hc, hq 1 (Nat.le_refl 1) (by omega), pure_bind]
    obtain ⟨j, hj, h2j, hjc, hl⟩ := runEnd_spec lt get (q 1) count q hq 2 (by omega)
    rw [hj, pure_bind]
    refine ⟨j, q 1, rfl, by omega, hjc (by omega), fun l hl₁ hl₂ => ?_⟩
    rcases Nat.eq_or_lt_of_le hl₁ with rfl | hl₁
    · rfl
    · exact hl l hl₁ hl₂

/-! ### Boundaries in a sorted run -/

section Sorted

variable {p : α → α → Bool} {S : α → Prop}

theorem boundary_before (hp : StrictWeakOn p S) {l : List α}
    (hl : l.Pairwise (fun a b => p b a = false)) (hS : ∀ y ∈ l, S y) {key : α} (hkey : S key) :
    ∃ k ≤ l.length, ∀ i (h : i < l.length), p l[i] key = decide (i < k) := by
  obtain ⟨k, hk, hq⟩ := exists_boundary (fun i => if h : i < l.length then p l[i] key else false)
    l.length (fun i j hij hj hq => by
      rw [dif_pos (by omega)] at hq ⊢
      rcases Nat.eq_or_lt_of_le hij with rfl | hij
      · exact hq
      · exact hp.lt_of_le_of_lt (hS _ (List.getElem_mem _)) (hS _ (List.getElem_mem _)) hkey
          (List.pairwise_iff_getElem.1 hl i j (by omega) hj hij) hq)
  exact ⟨k, hk, fun i h => by simpa [h] using hq i h⟩

theorem boundary_after (hp : StrictWeakOn p S) {l : List α}
    (hl : l.Pairwise (fun a b => p b a = false)) (hS : ∀ y ∈ l, S y) {key : α} (hkey : S key) :
    ∃ k ≤ l.length, ∀ i (h : i < l.length), p key l[i] = decide (k ≤ i) := by
  obtain ⟨k, hk, hq⟩ := exists_boundary
    (fun i => if h : i < l.length then !p key l[i] else false) l.length (fun i j hij hj hq => by
      rw [dif_pos (by omega)] at hq ⊢
      rcases Nat.eq_or_lt_of_le hij with rfl | hij
      · exact hq
      · cases hi : p key l[i] with
        | false => rfl
        | true =>
          have := hp.lt_of_lt_of_le hkey (hS _ (List.getElem_mem _)) (hS _ (List.getElem_mem _))
            hi (List.pairwise_iff_getElem.1 hl i j (by omega) hj hij)
          simp [this] at hq)
  refine ⟨k, hk, fun i h => ?_⟩
  have := hq i h
  rw [dif_pos h] at this
  rw [← Bool.not_not (p key l[i]), this, ← decide_not]
  exact decide_eq_decide.2 (by omega)

theorem key_notBefore_take {l : List α} {key : α} {k : Nat}
    (h : ∀ i (hi : i < l.length), p key l[i] = decide (k ≤ i)) :
    ∀ x ∈ l.take k, p key x = false := by
  intro x hx
  obtain ⟨i, hi, rfl⟩ := List.mem_iff_getElem.1 hx
  simp only [List.length_take] at hi
  rw [List.getElem_take, h i (by omega)]
  exact decide_eq_false (by omega)

theorem key_before_drop {l : List α} {key : α} {k : Nat}
    (h : ∀ i (hi : i < l.length), p key l[i] = decide (k ≤ i)) :
    ∀ x ∈ l.drop k, p key x = true := by
  intro x hx
  obtain ⟨i, hi, rfl⟩ := List.mem_iff_getElem.1 hx
  simp only [List.length_drop] at hi
  rw [List.getElem_drop, h (k + i) (by omega)]
  exact decide_eq_true (by omega)

theorem take_before_key {l : List α} {key : α} {k : Nat}
    (h : ∀ i (hi : i < l.length), p l[i] key = decide (i < k)) :
    ∀ y ∈ l.take k, p y key = true := by
  intro y hy
  obtain ⟨i, hi, rfl⟩ := List.mem_iff_getElem.1 hy
  simp only [List.length_take] at hi
  rw [List.getElem_take, h i (by omega)]
  exact decide_eq_true (by omega)

theorem drop_notBefore_key {l : List α} {key : α} {k : Nat}
    (h : ∀ i (hi : i < l.length), p l[i] key = decide (i < k)) :
    ∀ y ∈ l.drop k, p y key = false := by
  intro y hy
  obtain ⟨i, hi, rfl⟩ := List.mem_iff_getElem.1 hy
  simp only [List.length_drop] at hi
  rw [List.getElem_drop, h (k + i) (by omega)]
  exact decide_eq_false (by omega)

theorem insertIdx_eq_take_append_drop {l : List α} {x : α} {k : Nat} (hk : k ≤ l.length) :
    l.insertIdx k x = l.take k ++ x :: l.drop k := by
  induction k generalizing l with
  | zero => simp [List.insertIdx_zero]
  | succ k ih =>
    cases l with
    | nil => simp at hk
    | cons a l => simp [List.insertIdx_succ_cons, ih (l := l) (by simpa using hk)]

theorem insertIdx_eq_merge {l : List α} {x : α} {k : Nat} (hk : k ≤ l.length)
    (h : ∀ i (hi : i < l.length), p x l[i] = decide (k ≤ i)) :
    l.insertIdx k x = List.merge l [x] (notAfter p) := by
  have hfront : ∀ a ∈ l.take k, ∀ b ∈ [x], p b a = false := by
    simpa using key_notBefore_take h
  have hback : ∀ b ∈ [x], ∀ a ∈ l.drop k, p b a = true := by
    simpa using key_before_drop h
  conv => rhs; rw [← List.take_append_drop k l]
  rw [insertIdx_eq_take_append_drop hk, merge_append_left_front p _ _ _ hfront,
    ← List.append_nil [x], merge_append_right_front p _ _ _ hback]
  simp

/-- Binary insertion of the items `xs` into the stable sort of `X` is the stable sort of
`X ++ xs`. -/
theorem binaryInsertAll_spec (hp : StrictWeakOn p S) {lt : α → α → Except ε Bool}
    (hlt : ∀ a b, S a → S b → lt a b = pure (p a b)) (xs : List α) :
    ∀ {X sorted : List α}, IsStableSort p S X sorted → (∀ x ∈ X, S x) → (∀ x ∈ xs, S x) →
      ∃ r, binaryInsertAll lt sorted xs = pure r ∧ IsStableSort p S (X ++ xs) r := by
  induction xs with
  | nil => exact fun h _ _ => ⟨_, rfl, by simpa using h⟩
  | cons x xs ih =>
    intro X sorted h hX hxs
    have hx : S x := hxs x (by simp)
    have hsorted : ∀ y ∈ sorted, S y := h.forall_mem hX
    obtain ⟨k, hk, hkey⟩ := boundary_after hp h.sorted hsorted hx
    have hpoint : insertionPoint lt sorted x 0 sorted.length = pure k :=
      insertionPoint_eq lt sorted x (Nat.le_refl _) (Nat.zero_le k) hk fun i y _ hi hiy => by
        obtain ⟨hi', rfl⟩ := List.getElem?_eq_some_iff.1 hiy
        rw [hlt x _ hx (hsorted _ (List.getElem_mem _)), hkey i hi']
    have hstep : IsStableSort p S (X ++ [x]) (sorted.insertIdx k x) := by
      rw [insertIdx_eq_merge hk hkey]
      exact h.merge hp (IsStableSort.of_sorted (List.pairwise_singleton _ x)) hX
        (by simpa using hx)
    rw [binaryInsertAll, hpoint, pure_bind]
    obtain ⟨r, hr, hrs⟩ := ih hstep (by simpa [or_imp, forall_and] using And.intro hX hx)
      (fun y hy => hxs y (by simp [hy]))
    exact ⟨r, hr, by simpa using hrs⟩

end Sorted

end AuditTrail.Sorting
