import AuditTrail.Proofs.SortSearch

/-!
# The galloping merges are `List.merge`

`mergeLo` and `mergeHi` keep their merge sound (what is placed, with the merge of what is left,
is the merge of the runs) at every step, and so end in `List.merge`.
-/

namespace AuditTrail.Sorting

variable {ε α : Type}

section
variable {p : α → α → Bool} {S : α → Prop}

theorem forall_notBefore_of_head (hp : StrictWeakOn p S) {y : α} {ys l : List α}
    (hys : (y :: ys).Pairwise (fun a b => p b a = false)) (hSy : ∀ z ∈ y :: ys, S z)
    (hSx : ∀ x ∈ l, S x) (h : ∀ x ∈ l, p y x = false) :
    ∀ x ∈ l, ∀ z ∈ y :: ys, p z x = false := by
  intro x hx z hz
  rcases List.mem_cons.1 hz with rfl | hz
  · exact h x hx
  · exact hp.trans x y z (hSx x hx) (hSy y (by simp)) (hSy z (by simp [hz])) (h x hx)
      (List.rel_of_pairwise_cons hys hz)

theorem forall_before_of_head (hp : StrictWeakOn p S) {x : α} {xs l : List α}
    (hxs : (x :: xs).Pairwise (fun a b => p b a = false)) (hSx : ∀ z ∈ x :: xs, S z)
    (hSy : ∀ y ∈ l, S y) (h : ∀ y ∈ l, p y x = true) :
    ∀ y ∈ l, ∀ z ∈ x :: xs, p y z = true := by
  intro y hy z hz
  rcases List.mem_cons.1 hz with rfl | hz
  · exact h y hy
  · exact hp.lt_of_lt_of_le (hSy y hy) (hSx x (by simp)) (hSx z (by simp [hz])) (h y hy)
      (List.rel_of_pairwise_cons hxs hz)

end

theorem getD_eq_getElem_drop {a : Array α} {d : α} {n i : Nat} (h : n + i < a.size)
    (hi : i < (a.toList.drop n).length) : a.getD (n + i) d = (a.toList.drop n)[i] := by
  simp [Array.getElem?_eq_getElem h]

theorem drop_eq_getD_cons {a : Array α} {d : α} {n : Nat} (h : n < a.size) :
    a.toList.drop n = a.getD n d :: a.toList.drop (n + 1) := by
  rw [List.drop_eq_getElem_cons (by simpa using h)]
  simp [Array.getElem?_eq_getElem h]

namespace FrontMerge

variable (p : α → α → Bool) (a b : Array α)

/-- The items placed, followed by the merge of what is left, are the merge of the runs. -/
structure Sound (s : FrontMerge α) : Prop where
  sizeA : s.nextA + s.leftA = a.size
  sizeB : s.nextB + s.leftB = b.size
  merged : s.placed.toList ++
      List.merge (a.toList.drop s.nextA) (b.toList.drop s.nextB) (notAfter p) =
    List.merge a.toList b.toList (notAfter p)

variable {p a b}

@[simp] theorem takeA_nextA (s : FrontMerge α) (k : Nat) : (s.takeA a k).nextA = s.nextA + k :=
  rfl
@[simp] theorem takeA_leftA (s : FrontMerge α) (k : Nat) : (s.takeA a k).leftA = s.leftA - k :=
  rfl
@[simp] theorem takeA_nextB (s : FrontMerge α) (k : Nat) : (s.takeA a k).nextB = s.nextB := rfl
@[simp] theorem takeA_leftB (s : FrontMerge α) (k : Nat) : (s.takeA a k).leftB = s.leftB := rfl
@[simp] theorem takeB_nextA (s : FrontMerge α) (k : Nat) : (s.takeB b k).nextA = s.nextA := rfl
@[simp] theorem takeB_leftA (s : FrontMerge α) (k : Nat) : (s.takeB b k).leftA = s.leftA := rfl
@[simp] theorem takeB_nextB (s : FrontMerge α) (k : Nat) : (s.takeB b k).nextB = s.nextB + k :=
  rfl
@[simp] theorem takeB_leftB (s : FrontMerge α) (k : Nat) : (s.takeB b k).leftB = s.leftB - k :=
  rfl

theorem sound_start (mg : Nat) : Sound p a b (FrontMerge.mk 0 a.size 0 b.size #[] mg) :=
  ⟨by simp, by simp, by simp⟩

theorem Sound.withGallop {s : FrontMerge α} (h : Sound p a b s) (mg : Nat) :
    Sound p a b { s with minGallop := mg } := ⟨h.sizeA, h.sizeB, h.merged⟩

theorem Sound.takeA {s : FrontMerge α} (h : Sound p a b s) {k : Nat} (hk : k ≤ s.leftA)
    (hab : ∀ x ∈ (a.toList.drop s.nextA).take k, ∀ y ∈ b.toList.drop s.nextB, p y x = false) :
    Sound p a b (s.takeA a k) where
  sizeA := by have := h.sizeA; simp only [FrontMerge.takeA]; omega
  sizeB := h.sizeB
  merged := by
    rw [← h.merged, ← List.take_append_drop k (a.toList.drop s.nextA),
      merge_append_left_front p _ _ _ hab, List.drop_drop]
    simp [FrontMerge.takeA]

theorem Sound.takeB {s : FrontMerge α} (h : Sound p a b s) {k : Nat} (hk : k ≤ s.leftB)
    (hba : ∀ y ∈ (b.toList.drop s.nextB).take k, ∀ x ∈ a.toList.drop s.nextA, p y x = true) :
    Sound p a b (s.takeB b k) where
  sizeA := h.sizeA
  sizeB := by have := h.sizeB; simp only [FrontMerge.takeB]; omega
  merged := by
    rw [← h.merged, ← List.take_append_drop k (b.toList.drop s.nextB),
      merge_append_right_front p _ _ _ hba, List.drop_drop]
    simp [FrontMerge.takeB]

theorem Sound.finish_eq {s : FrontMerge α} (h : Sound p a b s) (hend : s.leftA = 0 ∨ s.leftB = 0) :
    (s.finish a b).1.toList = List.merge a.toList b.toList (notAfter p) := by
  have hA := h.sizeA
  have hB := h.sizeB
  rw [← h.merged]
  simp only [FrontMerge.finish, Array.toList_append, Array.toList_extract,
    List.extract_eq_take_drop, Nat.add_sub_cancel_left, List.append_assoc]
  rw [List.take_of_length_le (by simp; omega), List.take_of_length_le (by simp; omega)]
  rcases hend with hend | hend
  · rw [List.drop_eq_nil_of_le (show a.toList.length ≤ s.nextA by simp; omega)]
    simp
  · rw [List.drop_eq_nil_of_le (show b.toList.length ≤ s.nextB by simp; omega)]
    simp

theorem Sound.finishLastA_eq {s : FrontMerge α} (h : Sound p a b s) (d : α) (hone : s.leftA = 1)
    (hlast : ∀ y ∈ b.toList.drop s.nextB, p y (a.getD s.nextA d) = true) :
    (s.finishLastA a b d).1.toList = List.merge a.toList b.toList (notAfter p) := by
  have hA := h.sizeA
  have hB := h.sizeB
  have hrest : a.toList.drop s.nextA = [a.getD s.nextA d] := by
    rw [drop_eq_getD_cons (by omega), List.drop_eq_nil_of_le (by simp; omega)]
  rw [← h.merged, hrest, ← List.nil_append [a.getD s.nextA d],
    merge_append_left_back p _ _ _ (by simpa using hlast)]
  simp only [FrontMerge.finishLastA, Array.toList_append, Array.toList_extract,
    List.extract_eq_take_drop, Nat.add_sub_cancel_left, List.append_assoc, List.nil_merge]
  rw [List.take_of_length_le (by simp; omega)]

/-- What holds before each step of a merge from the front: it is sound, at least two items of
`A` and one of `B` are left, and the fuel covers what is left. -/
structure Going (p : α → α → Bool) (a b : Array α) (fuel : Nat) (s : FrontMerge α) : Prop where
  sound : Sound p a b s
  twoA : 2 ≤ s.leftA
  oneB : 1 ≤ s.leftB
  fuel : s.leftA + s.leftB ≤ fuel

theorem Going.withGallop {fuel : Nat} {s : FrontMerge α} (h : Going p a b fuel s) (mg : Nat) :
    Going p a b fuel { s with minGallop := mg } :=
  ⟨h.sound.withGallop mg, h.twoA, h.oneB, h.fuel⟩

end FrontMerge

section Front

variable {p : α → α → Bool} {S : α → Prop} {lt : α → α → Except ε Bool} {a b : Array α} {d : α}
variable (hp : StrictWeakOn p S) (hlt : ∀ x y, S x → S y → lt x y = pure (p x y))
  (hA : a.toList.Pairwise (fun x y => p y x = false))
  (hB : b.toList.Pairwise (fun x y => p y x = false))
  (hSA : ∀ x ∈ a.toList, S x) (hSB : ∀ y ∈ b.toList, S y)
  (hlast : ∀ y ∈ b.toList, p y (a.getD (a.size - 1) d) = true)
include hp hlt hA hB hSA hSB hlast

omit hp hlt hlast in
theorem FrontMerge.Sound.rests {s : FrontMerge α} (h : FrontMerge.Sound p a b s) (hA0 : 1 ≤ s.leftA)
    (hB0 : 1 ≤ s.leftB) :
    a.toList.drop s.nextA = a.getD s.nextA d :: a.toList.drop (s.nextA + 1) ∧
    b.toList.drop s.nextB = b.getD s.nextB d :: b.toList.drop (s.nextB + 1) ∧
    (a.toList.drop s.nextA).Pairwise (fun x y => p y x = false) ∧
    (b.toList.drop s.nextB).Pairwise (fun x y => p y x = false) ∧
    (∀ x ∈ a.toList.drop s.nextA, S x) ∧ (∀ y ∈ b.toList.drop s.nextB, S y) := by
  have := h.sizeA
  have := h.sizeB
  exact ⟨drop_eq_getD_cons (by omega), drop_eq_getD_cons (by omega),
    hA.sublist (List.drop_sublist _ _), hB.sublist (List.drop_sublist _ _),
    fun x hx => hSA x (List.mem_of_mem_drop hx), fun y hy => hSB y (List.mem_of_mem_drop hy)⟩

theorem mergeLoSteps_stepping {fuel winsA winsB : Nat} {s : FrontMerge α}
    (hs : FrontMerge.Going p a b (fuel + 1) s)
    (ih : ∀ mode (s' : FrontMerge α), FrontMerge.Going p a b fuel s' →
      ∃ r, mergeLoSteps lt a b d fuel mode s' = pure r ∧
        r.1.toList = List.merge a.toList b.toList (notAfter p)) :
    ∃ r, mergeLoSteps lt a b d (fuel + 1) (.stepping winsA winsB) s = pure r ∧
      r.1.toList = List.merge a.toList b.toList (notAfter p) := by
  have hsA := hs.sound.sizeA
  have hsB := hs.sound.sizeB
  have := hs.twoA
  have := hs.oneB
  have hfuel := hs.fuel
  obtain ⟨hrA, hrB, hsortA, hsortB, hSrA, hSrB⟩ :=
    hs.sound.rests hA hB hSA hSB (d := d) (by omega) (by omega)
  rw [hrA] at hsortA hSrA
  rw [hrB] at hsortB hSrB
  rw [mergeLoSteps.eq_2, hlt _ _ (hSrB _ (by simp)) (hSrA _ (by simp)), pure_bind]
  by_cases hba : p (b.getD s.nextB d) (a.getD s.nextA d) = true
  · -- the head of `B` goes first
    have hs₁ : FrontMerge.Sound p a b (s.takeB b 1) := hs.sound.takeB (by omega) (by
      rw [hrA, hrB]
      simpa using forall_before_of_head hp hsortA hSrA (l := [b.getD s.nextB d])
        (by simpa using hSrB _ (by simp)) (by simpa using hba))
    simp only [hba, if_true, FrontMerge.takeB, beq_iff_eq]
    split
    · exact ⟨_, rfl, hs₁.finish_eq (Or.inr (by simp [FrontMerge.takeB]; omega))⟩
    · have hgo : FrontMerge.Going p a b fuel (s.takeB b 1) :=
        ⟨hs₁, by simp; omega, by simp; omega, by simp; omega⟩
      by_cases hg : winsB + 1 ≥ s.minGallop
      · simp only [hg, ↓reduceIte]
        exact ih _ _ (hgo.withGallop _)
      · simp only [hg, ↓reduceIte]
        exact ih _ _ hgo
  · -- the head of `A` goes first
    have hab : p (b.getD s.nextB d) (a.getD s.nextA d) = false := by simpa using hba
    have hs₁ : FrontMerge.Sound p a b (s.takeA a 1) := hs.sound.takeA (by omega) (by
      rw [hrA, hrB]
      simpa using forall_notBefore_of_head hp hsortB hSrB (l := [a.getD s.nextA d])
        (by simpa using hSrA _ (by simp)) (by simpa using hab))
    simp only [hba, Bool.false_eq_true, if_false, FrontMerge.takeA, beq_iff_eq]
    split
    · refine ⟨_, rfl, hs₁.finishLastA_eq d (by simp [FrontMerge.takeA]; omega) fun y hy => ?_⟩
      have hend : s.nextA + 1 = a.size - 1 := by omega
      simpa [FrontMerge.takeA, hend] using hlast y (List.mem_of_mem_drop hy)
    · have hgo : FrontMerge.Going p a b fuel (s.takeA a 1) :=
        ⟨hs₁, by simp; omega, by simp; omega, by simp; omega⟩
      by_cases hg : winsA + 1 ≥ s.minGallop
      · simp only [hg, ↓reduceIte]
        exact ih _ _ (hgo.withGallop _)
      · simp only [hg, ↓reduceIte]
        exact ih _ _ hgo

theorem mergeLoSteps_galloping {fuel : Nat} {s : FrontMerge α}
    (hs : FrontMerge.Going p a b (fuel + 1) s)
    (ih : ∀ mode (s' : FrontMerge α), FrontMerge.Going p a b fuel s' →
      ∃ r, mergeLoSteps lt a b d fuel mode s' = pure r ∧
        r.1.toList = List.merge a.toList b.toList (notAfter p)) :
    ∃ r, mergeLoSteps lt a b d (fuel + 1) .galloping s = pure r ∧
      r.1.toList = List.merge a.toList b.toList (notAfter p) := by
  rw [mergeLoSteps.eq_3]
  generalize hs0 : ({ s with minGallop := if s.minGallop > 1 then s.minGallop - 1
    else s.minGallop } : FrontMerge α) = s₀
  have hg : FrontMerge.Going p a b (fuel + 1) s₀ :=
    hs0 ▸ hs.withGallop _
  have hsA := hg.sound.sizeA
  have hsB := hg.sound.sizeB
  have := hg.twoA
  have := hg.oneB
  have hfuel := hg.fuel
  obtain ⟨hrA, hrB, hsortA, hsortB, hSrA, hSrB⟩ :=
    hg.sound.rests hA hB hSA hSB (d := d) (by omega) (by omega)
  have hlenA : (a.toList.drop s₀.nextA).length = s₀.leftA := by simp; omega
  -- the first gallop: how many items of `A` the head of `B` is not before
  have hbh : S (b.getD s₀.nextB d) := hSrB _ (hrB ▸ List.mem_cons_self)
  obtain ⟨k, hk, hkey⟩ := boundary_after hp hsortA hSrA hbh
  have hgR : gallopRight lt (b.getD s₀.nextB d) (fun i => a.getD (s₀.nextA + i) d) s₀.leftA 0 =
      pure k := gallopRight_eq lt _ _ (by omega) (by omega) fun i hi => by
    rw [getD_eq_getElem_drop (by omega) (by simp; omega),
      hlt _ _ hbh (hSrA _ (List.getElem_mem _)), hkey]
  rw [hgR, pure_bind]
  dsimp only
  have hs₁ : FrontMerge.Sound p a b (s₀.takeA a k) := hg.sound.takeA (by omega) (by
    rw [hrB]
    exact forall_notBefore_of_head hp (hrB ▸ hsortB) (hrB ▸ hSrB)
      (fun x hx => hSrA x (List.mem_of_mem_take hx)) (key_notBefore_take hkey))
  by_cases hlastA : 0 < k ∧ s₀.leftA - k = 1
  · -- one item of `A` is left: it goes last
    rw [if_pos (by simpa using hlastA)]
    refine ⟨_, rfl, hs₁.finishLastA_eq d (by simpa using hlastA.2) fun y hy => ?_⟩
    have hend : s₀.nextA + k = a.size - 1 := by omega
    simpa [hend] using hlast y (List.mem_of_mem_drop hy)
  rw [if_neg (by simpa using hlastA)]
  by_cases hnoA : 0 < k ∧ s₀.leftA - k = 0
  · rw [if_pos (by simpa using hnoA)]
    exact ⟨_, rfl, hs₁.finish_eq (Or.inl (by simpa using hnoA.2))⟩
  rw [if_neg (by simpa using hnoA)]
  have h2A : 2 ≤ s₀.leftA - k := by omega
  have hs₂ : FrontMerge.Sound p a b ((s₀.takeA a k).takeB b 1) := hs₁.takeB (by simp; omega) (by
    intro y hy x hx
    simp only [FrontMerge.takeA_nextB, FrontMerge.takeA_nextA] at hy hx
    rw [hrB] at hy
    simp only [List.take_succ_cons, List.take_zero, List.mem_singleton] at hy
    subst hy
    rw [← List.drop_drop] at hx
    exact key_before_drop hkey x hx)
  by_cases hnoB : s₀.leftB - 1 = 0
  · rw [if_pos (by simpa using hnoB)]
    exact ⟨_, rfl, hs₂.finish_eq (Or.inr (by simpa using hnoB))⟩
  rw [if_neg (by simpa using hnoB)]
  generalize hs2 : (s₀.takeA a k).takeB b 1 = s₂ at hs₂ ⊢
  have hn2A : s₂.nextA = s₀.nextA + k := by rw [← hs2]; rfl
  have hl2A : s₂.leftA = s₀.leftA - k := by rw [← hs2]; rfl
  have hn2B : s₂.nextB = s₀.nextB + 1 := by rw [← hs2]; rfl
  have hl2B : s₂.leftB = s₀.leftB - 1 := by rw [← hs2]; rfl
  obtain ⟨hrA₂, hrB₂, hsortA₂, hsortB₂, hSrA₂, hSrB₂⟩ :=
    hs₂.rests hA hB hSA hSB (d := d) (by omega) (by omega)
  have hlenB₂ : (b.toList.drop s₂.nextB).length = s₂.leftB := by simp; omega
  -- the second gallop: how many items of `B` are before the head of `A`
  have hah : S (a.getD s₂.nextA d) := hSrA₂ _ (hrA₂ ▸ List.mem_cons_self)
  obtain ⟨k₂, hk₂, hkey₂⟩ := boundary_before hp hsortB₂ hSrB₂ hah
  have hgL : gallopLeft lt (a.getD s₂.nextA d) (fun i => b.getD (s₂.nextB + i) d) s₂.leftB 0 =
      pure k₂ := gallopLeft_eq lt _ _ (by omega) (by omega) fun i hi => by
    rw [getD_eq_getElem_drop (by omega) (by simp; omega),
      hlt _ _ (hSrB₂ _ (List.getElem_mem _)) hah, hkey₂]
  rw [hgL, pure_bind]
  have hs₃ : FrontMerge.Sound p a b (s₂.takeB b k₂) := hs₂.takeB (by omega) (by
    rw [hrA₂]
    exact forall_before_of_head hp (hrA₂ ▸ hsortA₂) (hrA₂ ▸ hSrA₂)
      (fun y hy => hSrB₂ y (List.mem_of_mem_take hy)) (take_before_key hkey₂))
  by_cases hnoB₂ : 0 < k₂ ∧ s₂.leftB - k₂ = 0
  · rw [if_pos (by simpa using hnoB₂)]
    exact ⟨_, rfl, hs₃.finish_eq (Or.inr (by simpa using hnoB₂.2))⟩
  rw [if_neg (by simpa using hnoB₂)]
  have hs₄ : FrontMerge.Sound p a b ((s₂.takeB b k₂).takeA a 1) := hs₃.takeA (by simp; omega) (by
    intro x hx y hy
    simp only [FrontMerge.takeB_nextA, FrontMerge.takeB_nextB] at hx hy
    rw [hrA₂] at hx
    simp only [List.take_succ_cons, List.take_zero, List.mem_singleton] at hx
    subst hx
    rw [← List.drop_drop] at hy
    exact drop_notBefore_key hkey₂ y hy)
  by_cases hlastA₂ : s₂.leftA - 1 = 1
  · rw [if_pos (by simpa using hlastA₂)]
    refine ⟨_, rfl, hs₄.finishLastA_eq d (by simpa using hlastA₂) fun y hy => ?_⟩
    have hend : s₂.nextA + 1 = a.size - 1 := by omega
    simpa [hend] using hlast y (List.mem_of_mem_drop hy)
  rw [if_neg (by simpa using hlastA₂)]
  have hgo : FrontMerge.Going p a b fuel ((s₂.takeB b k₂).takeA a 1) :=
    ⟨hs₄, by simp; omega, by simp; omega, by simp; omega⟩
  split
  · exact ih _ _ hgo
  · exact ih _ _ (hgo.withGallop _)

theorem mergeLoSteps_eq (fuel : Nat) : ∀ mode (s : FrontMerge α),
    FrontMerge.Going p a b fuel s → ∃ r, mergeLoSteps lt a b d fuel mode s = pure r ∧
      r.1.toList = List.merge a.toList b.toList (notAfter p) := by
  induction fuel with
  | zero =>
    intro mode s hs
    have := hs.twoA
    have := hs.fuel
    omega
  | succ fuel ih =>
    intro mode s hs
    cases mode with
    | stepping winsA winsB => exact mergeLoSteps_stepping hp hlt hA hB hSA hSB hlast hs ih
    | galloping => exact mergeLoSteps_galloping hp hlt hA hB hSA hSB hlast hs ih

/-- `mergeLo` merges two nonempty sorted runs, the first item of `B` being before all of `A`
and all of `B` before the last item of `A`, into their merge. -/
theorem mergeLo_eq (ha : 1 ≤ a.size) (hb : 1 ≤ b.size)
    (hfirst : ∀ x ∈ a.toList, p (b.getD 0 d) x = true) (mg : Nat) :
    ∃ r, mergeLo lt d a b mg = pure r ∧ r.1.toList = List.merge a.toList b.toList (notAfter p) := by
  have hs₁ : FrontMerge.Sound p a b ((FrontMerge.mk 0 a.size 0 b.size #[] mg).takeB b 1) :=
    (FrontMerge.sound_start mg).takeB (by simp; omega) (by
      intro y hy x hx
      rw [drop_eq_getD_cons (d := d) (show 0 < b.size by omega)] at hy
      simp only [List.take_succ_cons, List.take_zero, List.mem_singleton] at hy
      subst hy
      exact hfirst x (List.mem_of_mem_drop hx))
  rw [mergeLo.eq_1]
  by_cases hb1 : b.size - 1 = 0
  · rw [if_pos (by simpa using hb1)]
    exact ⟨_, rfl, hs₁.finish_eq (Or.inr (by simpa using hb1))⟩
  rw [if_neg (by simpa using hb1)]
  by_cases ha1 : a.size = 1
  · rw [if_pos (by simpa using ha1)]
    refine ⟨_, rfl, hs₁.finishLastA_eq d (by simpa using ha1) fun y hy => ?_⟩
    have hend : a.size - 1 = 0 := by omega
    have hy' := hlast y (List.mem_of_mem_drop hy)
    rw [hend] at hy'
    exact hy'
  rw [if_neg (by simpa using ha1)]
  exact mergeLoSteps_eq hp hlt hA hB hSA hSB hlast _ _ _
    ⟨hs₁, by simp; omega, by simp; omega, by simp⟩

end Front

section
variable {p : α → α → Bool} {S : α → Prop}

theorem forall_before_of_last (hp : StrictWeakOn p S) {y : α} {ys l : List α}
    (hys : (ys ++ [y]).Pairwise (fun a b => p b a = false)) (hSy : ∀ z ∈ ys ++ [y], S z)
    (hSx : ∀ x ∈ l, S x) (h : ∀ x ∈ l, p y x = true) :
    ∀ z ∈ ys ++ [y], ∀ x ∈ l, p z x = true := by
  intro z hz x hx
  rcases List.mem_append.1 hz with hz | hz
  · exact hp.lt_of_le_of_lt (hSy z (by simp [hz])) (hSy y (by simp)) (hSx x hx)
      ((List.pairwise_append.1 hys).2.2 z hz y (List.mem_singleton_self y)) (h x hx)
  · rw [List.mem_singleton.1 hz]
    exact h x hx

theorem forall_notBefore_of_last (hp : StrictWeakOn p S) {x : α} {xs l : List α}
    (hxs : (xs ++ [x]).Pairwise (fun a b => p b a = false)) (hSx : ∀ z ∈ xs ++ [x], S z)
    (hSy : ∀ y ∈ l, S y) (h : ∀ y ∈ l, p y x = false) :
    ∀ y ∈ l, ∀ z ∈ xs ++ [x], p y z = false := by
  intro y hy z hz
  rcases List.mem_append.1 hz with hz | hz
  · exact hp.trans z x y (hSx z (by simp [hz])) (hSx x (by simp)) (hSy y hy)
      ((List.pairwise_append.1 hxs).2.2 z hz x (List.mem_singleton_self x)) (h y hy)
  · rw [List.mem_singleton.1 hz]
    exact h y hy

end

theorem take_succ_eq_getD {a : Array α} {d : α} {n : Nat} (h : n < a.size) :
    a.toList.take (n + 1) = a.toList.take n ++ [a.getD n d] := by
  rw [List.take_add_one]
  simp [Array.getElem?_eq_getElem h]

namespace BackMerge

variable (p : α → α → Bool) (a b : Array α)

/-- The merge of what is left, followed by the items placed, is the merge of the runs. -/
structure Sound (s : BackMerge α) : Prop where
  sizeA : s.leftA ≤ a.size
  sizeB : s.leftB ≤ b.size
  merged : List.merge (a.toList.take s.leftA) (b.toList.take s.leftB) (notAfter p) ++ s.placed =
    List.merge a.toList b.toList (notAfter p)

variable {p a b}

@[simp] theorem takeA_leftA (s : BackMerge α) (k : Nat) : (s.takeA a k).leftA = s.leftA - k :=
  rfl
@[simp] theorem takeA_leftB (s : BackMerge α) (k : Nat) : (s.takeA a k).leftB = s.leftB := rfl
@[simp] theorem takeB_leftA (s : BackMerge α) (k : Nat) : (s.takeB b k).leftA = s.leftA := rfl
@[simp] theorem takeB_leftB (s : BackMerge α) (k : Nat) : (s.takeB b k).leftB = s.leftB - k :=
  rfl

theorem sound_start (mg : Nat) : Sound p a b (BackMerge.mk a.size b.size [] mg) :=
  ⟨Nat.le_refl _, Nat.le_refl _, by
    rw [List.take_of_length_le (by simp), List.take_of_length_le (by simp), List.append_nil]⟩

theorem Sound.withGallop {s : BackMerge α} (h : Sound p a b s) (mg : Nat) :
    Sound p a b { s with minGallop := mg } := ⟨h.sizeA, h.sizeB, h.merged⟩

theorem Sound.takeA {s : BackMerge α} (h : Sound p a b s) {k : Nat} (hk : k ≤ s.leftA)
    (hba : ∀ x ∈ (a.toList.take s.leftA).drop (s.leftA - k), ∀ y ∈ b.toList.take s.leftB,
      p y x = true) :
    Sound p a b (s.takeA a k) where
  sizeA := by have := h.sizeA; simp only [takeA_leftA]; omega
  sizeB := h.sizeB
  merged := by
    rw [← h.merged, ← List.take_append_drop (s.leftA - k) (a.toList.take s.leftA),
      merge_append_left_back p _ _ _ hba, List.take_take, List.drop_take]
    simp [BackMerge.takeA, Nat.sub_sub_self hk]

theorem Sound.takeB {s : BackMerge α} (h : Sound p a b s) {k : Nat} (hk : k ≤ s.leftB)
    (hab : ∀ y ∈ (b.toList.take s.leftB).drop (s.leftB - k), ∀ x ∈ a.toList.take s.leftA,
      p y x = false) :
    Sound p a b (s.takeB b k) where
  sizeA := h.sizeA
  sizeB := by have := h.sizeB; simp only [takeB_leftB]; omega
  merged := by
    rw [← h.merged, ← List.take_append_drop (s.leftB - k) (b.toList.take s.leftB),
      merge_append_right_back p _ _ _ hab, List.take_take, List.drop_take]
    simp [BackMerge.takeB, Nat.sub_sub_self hk]

theorem Sound.finish_eq {s : BackMerge α} (h : Sound p a b s) (hend : s.leftA = 0 ∨ s.leftB = 0) :
    (s.finish a b).1.toList = List.merge a.toList b.toList (notAfter p) := by
  rw [← h.merged]
  simp only [BackMerge.finish, Array.toList_append, Array.toList_extract,
    List.extract_eq_take_drop, List.drop_zero, Nat.sub_zero, List.append_assoc]
  rcases hend with hend | hend
  · simp [hend]
  · simp [hend]

theorem Sound.finishFirstB_eq {s : BackMerge α} (h : Sound p a b s) (d : α) (hone : s.leftB = 1)
    (hfirst : ∀ x ∈ a.toList.take s.leftA, p (b.getD 0 d) x = true) :
    (s.finishFirstB a b d).1.toList = List.merge a.toList b.toList (notAfter p) := by
  have hB := h.sizeB
  have hrest : b.toList.take s.leftB = [b.getD 0 d] := by
    rw [hone, ← Nat.zero_add 1, take_succ_eq_getD (d := d) (by omega)]
    simp
  rw [← h.merged, hrest, ← List.append_nil [b.getD 0 d],
    merge_append_right_front p _ _ _ (by simpa using hfirst)]
  simp [BackMerge.finishFirstB]

/-- What holds before each step of a merge from the back: it is sound, at least one item of
`A` and two of `B` are left, and the fuel covers what is left. -/
structure Going (p : α → α → Bool) (a b : Array α) (fuel : Nat) (s : BackMerge α) : Prop where
  sound : Sound p a b s
  oneA : 1 ≤ s.leftA
  twoB : 2 ≤ s.leftB
  fuel : s.leftA + s.leftB ≤ fuel

theorem Going.withGallop {fuel : Nat} {s : BackMerge α} (h : Going p a b fuel s) (mg : Nat) :
    Going p a b fuel { s with minGallop := mg } :=
  ⟨h.sound.withGallop mg, h.oneA, h.twoB, h.fuel⟩

end BackMerge

theorem drop_append_singleton {xs : List α} {x : α} {n : Nat} (h : xs.length = n) :
    (xs ++ [x]).drop n = [x] := by
  rw [List.drop_left' h]

section Back

variable {p : α → α → Bool} {S : α → Prop} {lt : α → α → Except ε Bool} {a b : Array α} {d : α}
variable (hp : StrictWeakOn p S) (hlt : ∀ x y, S x → S y → lt x y = pure (p x y))
  (hA : a.toList.Pairwise (fun x y => p y x = false))
  (hB : b.toList.Pairwise (fun x y => p y x = false))
  (hSA : ∀ x ∈ a.toList, S x) (hSB : ∀ y ∈ b.toList, S y)
  (hfirst : ∀ x ∈ a.toList, p (b.getD 0 d) x = true)
include hp hlt hA hB hSA hSB hfirst

omit hp hlt hfirst in
theorem BackMerge.Sound.rests {s : BackMerge α} (h : BackMerge.Sound p a b s) (hA0 : 1 ≤ s.leftA)
    (hB0 : 1 ≤ s.leftB) :
    a.toList.take s.leftA = a.toList.take (s.leftA - 1) ++ [a.getD (s.leftA - 1) d] ∧
    b.toList.take s.leftB = b.toList.take (s.leftB - 1) ++ [b.getD (s.leftB - 1) d] ∧
    (a.toList.take s.leftA).Pairwise (fun x y => p y x = false) ∧
    (b.toList.take s.leftB).Pairwise (fun x y => p y x = false) ∧
    (∀ x ∈ a.toList.take s.leftA, S x) ∧ (∀ y ∈ b.toList.take s.leftB, S y) := by
  have := h.sizeA
  have := h.sizeB
  refine ⟨?_, ?_, hA.sublist (List.take_sublist _ _), hB.sublist (List.take_sublist _ _),
    fun x hx => hSA x (List.mem_of_mem_take hx), fun y hy => hSB y (List.mem_of_mem_take hy)⟩
  · rw [← take_succ_eq_getD (by omega), Nat.sub_add_cancel hA0]
  · rw [← take_succ_eq_getD (by omega), Nat.sub_add_cancel hB0]

theorem mergeHiSteps_stepping {fuel winsA winsB : Nat} {s : BackMerge α}
    (hs : BackMerge.Going p a b (fuel + 1) s)
    (ih : ∀ mode (s' : BackMerge α), BackMerge.Going p a b fuel s' →
      ∃ r, mergeHiSteps lt a b d fuel mode s' = pure r ∧
        r.1.toList = List.merge a.toList b.toList (notAfter p)) :
    ∃ r, mergeHiSteps lt a b d (fuel + 1) (.stepping winsA winsB) s = pure r ∧
      r.1.toList = List.merge a.toList b.toList (notAfter p) := by
  have hsA := hs.sound.sizeA
  have hsB := hs.sound.sizeB
  have := hs.oneA
  have := hs.twoB
  have hfuel := hs.fuel
  obtain ⟨hrA, hrB, hsortA, hsortB, hSrA, hSrB⟩ :=
    hs.sound.rests hA hB hSA hSB (d := d) (by omega) (by omega)
  have hlenA : (a.toList.take (s.leftA - 1)).length = s.leftA - 1 := by simp; omega
  have hlenB : (b.toList.take (s.leftB - 1)).length = s.leftB - 1 := by simp; omega
  rw [hrA] at hsortA hSrA
  rw [hrB] at hsortB hSrB
  rw [mergeHiSteps.eq_2, hlt _ _ (hSrB _ (by simp)) (hSrA _ (by simp)), pure_bind]
  by_cases hba : p (b.getD (s.leftB - 1) d) (a.getD (s.leftA - 1) d) = true
  · -- the last item of `A` goes last
    have hs₁ : BackMerge.Sound p a b (s.takeA a 1) := hs.sound.takeA (by omega) (by
      rw [hrA, hrB, drop_append_singleton hlenA]
      intro x hx y hy
      rw [List.mem_singleton.1 hx]
      exact forall_before_of_last hp hsortB hSrB (l := [_]) (by simpa using hSrA _ (by simp))
        (by simpa using hba) y hy _ (List.mem_singleton_self _))
    simp only [hba, if_true, BackMerge.takeA_leftA, beq_iff_eq]
    split
    · exact ⟨_, rfl, hs₁.finish_eq (Or.inl (by simp; omega))⟩
    · have hgo : BackMerge.Going p a b fuel (s.takeA a 1) :=
        ⟨hs₁, by simp; omega, by simp; omega, by simp; omega⟩
      by_cases hg : winsA + 1 ≥ (s.takeA a 1).minGallop
      · simp only [hg, ↓reduceIte]
        exact ih _ _ (hgo.withGallop _)
      · simp only [hg, ↓reduceIte]
        exact ih _ _ hgo
  · -- the last item of `B` goes last
    have hab : p (b.getD (s.leftB - 1) d) (a.getD (s.leftA - 1) d) = false := by simpa using hba
    have hs₁ : BackMerge.Sound p a b (s.takeB b 1) := hs.sound.takeB (by omega) (by
      rw [hrA, hrB, drop_append_singleton hlenB]
      intro y hy x hx
      rw [List.mem_singleton.1 hy]
      exact forall_notBefore_of_last hp hsortA hSrA (l := [_]) (by simpa using hSrB _ (by simp))
        (by simpa using hab) _ (List.mem_singleton_self _) x hx)
    simp only [hba, Bool.false_eq_true, if_false, BackMerge.takeB_leftB, beq_iff_eq]
    split
    · refine ⟨_, rfl, hs₁.finishFirstB_eq d (by simp; omega) fun x hx => ?_⟩
      exact hfirst x (List.mem_of_mem_take hx)
    · have hgo : BackMerge.Going p a b fuel (s.takeB b 1) :=
        ⟨hs₁, by simp; omega, by simp; omega, by simp; omega⟩
      by_cases hg : winsB + 1 ≥ (s.takeB b 1).minGallop
      · simp only [hg, ↓reduceIte]
        exact ih _ _ (hgo.withGallop _)
      · simp only [hg, ↓reduceIte]
        exact ih _ _ hgo

theorem mergeHiSteps_galloping {fuel : Nat} {s : BackMerge α}
    (hs : BackMerge.Going p a b (fuel + 1) s)
    (ih : ∀ mode (s' : BackMerge α), BackMerge.Going p a b fuel s' →
      ∃ r, mergeHiSteps lt a b d fuel mode s' = pure r ∧
        r.1.toList = List.merge a.toList b.toList (notAfter p)) :
    ∃ r, mergeHiSteps lt a b d (fuel + 1) .galloping s = pure r ∧
      r.1.toList = List.merge a.toList b.toList (notAfter p) := by
  rw [mergeHiSteps.eq_3]
  generalize hs0 : ({ s with minGallop := if s.minGallop > 1 then s.minGallop - 1
    else s.minGallop } : BackMerge α) = s₀
  have hg : BackMerge.Going p a b (fuel + 1) s₀ :=
    hs0 ▸ hs.withGallop _
  have hsA := hg.sound.sizeA
  have hsB := hg.sound.sizeB
  have := hg.oneA
  have := hg.twoB
  have hfuel := hg.fuel
  obtain ⟨hrA, hrB, hsortA, hsortB, hSrA, hSrB⟩ :=
    hg.sound.rests hA hB hSA hSB (d := d) (by omega) (by omega)
  -- the first gallop: how many items left of `A` the last item of `B` is not before
  have hbl : S (b.getD (s₀.leftB - 1) d) := hSrB _ (hrB ▸ List.mem_append_right _ (by simp))
  obtain ⟨k, hk, hkey⟩ := boundary_after hp hsortA hSrA hbl
  have hlenA : (a.toList.take s₀.leftA).length = s₀.leftA := by simp; omega
  have hgR : gallopRight lt (b.getD (s₀.leftB - 1) d) (fun i => a.getD i d) s₀.leftA
      (s₀.leftA - 1) = pure k := gallopRight_eq lt _ _ (by omega) (by omega) fun i hi => by
    have hi' : i < (a.toList.take s₀.leftA).length := by omega
    have hai : a.getD i d = (a.toList.take s₀.leftA)[i] := by
      simp [Array.getElem?_eq_getElem (show i < a.size by omega)]
    rw [hai, hlt _ _ hbl (hSrA _ (List.getElem_mem hi')), hkey i hi']
  rw [hgR, pure_bind]
  dsimp only
  have hs₁ : BackMerge.Sound p a b (s₀.takeA a (s₀.leftA - k)) :=
    hg.sound.takeA (k := s₀.leftA - k) (by omega) (by
    rw [Nat.sub_sub_self (by omega), hrB]
    intro x hx y hy
    exact forall_before_of_last hp (hrB ▸ hsortB) (hrB ▸ hSrB)
      (fun x hx => hSrA x (List.mem_of_mem_drop hx)) (key_before_drop hkey) y hy x hx)
  have hk₁ : (s₀.takeA a (s₀.leftA - k)).leftA = k := by simp; omega
  by_cases hnoA : 0 < s₀.leftA - k ∧ k = 0
  · rw [if_pos (by simpa [Nat.sub_sub_self (show k ≤ s₀.leftA by omega)] using hnoA)]
    exact ⟨_, rfl, hs₁.finish_eq (Or.inl (by rw [hk₁]; exact hnoA.2))⟩
  rw [if_neg (by simpa [Nat.sub_sub_self (show k ≤ s₀.leftA by omega)] using hnoA)]
  have hk0 : 1 ≤ k := by omega
  have hs₂ : BackMerge.Sound p a b ((s₀.takeA a (s₀.leftA - k)).takeB b 1) :=
    hs₁.takeB (by simp; omega) (by
      simp only [BackMerge.takeA_leftB, hk₁]
      rw [hrB, drop_append_singleton (by simp; omega)]
      intro y hy x hx
      rw [List.mem_singleton.1 hy]
      have hx' : x ∈ (a.toList.take s₀.leftA).take k := by
        rwa [List.take_take, Nat.min_eq_left (by omega)]
      exact key_notBefore_take hkey x hx')
  by_cases hlastB : s₀.leftB - 1 = 1
  · rw [if_pos (by simpa using hlastB)]
    refine ⟨_, rfl, hs₂.finishFirstB_eq d (by simpa using hlastB) fun x hx => ?_⟩
    exact hfirst x (List.mem_of_mem_take hx)
  rw [if_neg (by simpa using hlastB)]
  generalize hs2 : (s₀.takeA a (s₀.leftA - k)).takeB b 1 = s₂ at hs₂ ⊢
  have hl2A : s₂.leftA = k := by rw [← hs2]; simp; omega
  have hl2B : s₂.leftB = s₀.leftB - 1 := by rw [← hs2]; rfl
  obtain ⟨hrA₂, hrB₂, hsortA₂, hsortB₂, hSrA₂, hSrB₂⟩ :=
    hs₂.rests hA hB hSA hSB (d := d) (by omega) (by omega)
  -- the second gallop: how many items left of `B` are before the last item left of `A`
  have hal : S (a.getD (s₂.leftA - 1) d) := hSrA₂ _ (hrA₂ ▸ List.mem_append_right _ (by simp))
  obtain ⟨k₂, hk₂, hkey₂⟩ := boundary_before hp hsortB₂ hSrB₂ hal
  have hlenB₂ : (b.toList.take s₂.leftB).length = s₂.leftB := by simp; omega
  have hgL : gallopLeft lt (a.getD (s₂.leftA - 1) d) (fun i => b.getD i d) s₂.leftB
      (s₂.leftB - 1) = pure k₂ := gallopLeft_eq lt _ _ (by omega) (by omega) fun i hi => by
    have hi' : i < (b.toList.take s₂.leftB).length := by omega
    have hbi : b.getD i d = (b.toList.take s₂.leftB)[i] := by
      simp [Array.getElem?_eq_getElem (show i < b.size by omega)]
    rw [hbi, hlt _ _ (hSrB₂ _ (List.getElem_mem hi')) hal, hkey₂ i hi']
  rw [hgL, pure_bind]
  have hs₃ : BackMerge.Sound p a b (s₂.takeB b (s₂.leftB - k₂)) :=
    hs₂.takeB (k := s₂.leftB - k₂) (by omega) (by
    rw [Nat.sub_sub_self (by omega), hrA₂]
    exact forall_notBefore_of_last hp (hrA₂ ▸ hsortA₂) (hrA₂ ▸ hSrA₂)
      (fun y hy => hSrB₂ y (List.mem_of_mem_drop hy)) (drop_notBefore_key hkey₂))
  have hk₃ : (s₂.takeB b (s₂.leftB - k₂)).leftB = k₂ := by simp; omega
  by_cases hfirstB₂ : 0 < s₂.leftB - k₂ ∧ k₂ = 1
  · rw [if_pos (by simpa [Nat.sub_sub_self (show k₂ ≤ s₂.leftB by omega)] using hfirstB₂)]
    refine ⟨_, rfl, hs₃.finishFirstB_eq d (by rw [hk₃]; exact hfirstB₂.2) fun x hx => ?_⟩
    exact hfirst x (List.mem_of_mem_take hx)
  rw [if_neg (by simpa [Nat.sub_sub_self (show k₂ ≤ s₂.leftB by omega)] using hfirstB₂)]
  by_cases hnoB₂ : 0 < s₂.leftB - k₂ ∧ k₂ = 0
  · rw [if_pos (by simpa [Nat.sub_sub_self (show k₂ ≤ s₂.leftB by omega)] using hnoB₂)]
    exact ⟨_, rfl, hs₃.finish_eq (Or.inr (by rw [hk₃]; exact hnoB₂.2))⟩
  rw [if_neg (by simpa [Nat.sub_sub_self (show k₂ ≤ s₂.leftB by omega)] using hnoB₂)]
  have hs₄ : BackMerge.Sound p a b ((s₂.takeB b (s₂.leftB - k₂)).takeA a 1) :=
    hs₃.takeA (by simp; omega) (by
      simp only [BackMerge.takeB_leftA, hk₃]
      rw [hrA₂, drop_append_singleton (by simp; omega)]
      intro x hx y hy
      rw [List.mem_singleton.1 hx]
      have hy' : y ∈ (b.toList.take s₂.leftB).take k₂ := by
        rwa [List.take_take, Nat.min_eq_left (by omega)]
      exact take_before_key hkey₂ y hy')
  by_cases hnoA₂ : k - 1 = 0
  · rw [if_pos (by simpa [hl2A] using hnoA₂)]
    exact ⟨_, rfl, hs₄.finish_eq (Or.inl (by simp; omega))⟩
  rw [if_neg (by simpa [hl2A] using hnoA₂)]
  have hgo : BackMerge.Going p a b fuel ((s₂.takeB b (s₂.leftB - k₂)).takeA a 1) :=
    ⟨hs₄, by simp; omega, by simp; omega, by simp; omega⟩
  split
  · exact ih _ _ hgo
  · exact ih _ _ (hgo.withGallop _)

theorem mergeHiSteps_eq (fuel : Nat) : ∀ mode (s : BackMerge α),
    BackMerge.Going p a b fuel s → ∃ r, mergeHiSteps lt a b d fuel mode s = pure r ∧
      r.1.toList = List.merge a.toList b.toList (notAfter p) := by
  induction fuel with
  | zero =>
    intro mode s hs
    have := hs.twoB
    have := hs.fuel
    omega
  | succ fuel ih =>
    intro mode s hs
    cases mode with
    | stepping winsA winsB => exact mergeHiSteps_stepping hp hlt hA hB hSA hSB hfirst hs ih
    | galloping => exact mergeHiSteps_galloping hp hlt hA hB hSA hSB hfirst hs ih

/-- `mergeHi` merges two nonempty sorted runs, the first item of `B` being before all of `A`
and all of `B` before the last item of `A`, into their merge. -/
theorem mergeHi_eq (ha : 1 ≤ a.size) (hb : 1 ≤ b.size)
    (hlast : ∀ y ∈ b.toList, p y (a.getD (a.size - 1) d) = true) (mg : Nat) :
    ∃ r, mergeHi lt d a b mg = pure r ∧ r.1.toList = List.merge a.toList b.toList (notAfter p) := by
  have hs₁ : BackMerge.Sound p a b ((BackMerge.mk a.size b.size [] mg).takeA a 1) :=
    (BackMerge.sound_start mg).takeA (k := 1) (by simp; omega) (by
      intro x hx y hy
      simp only at hx hy
      rw [← Nat.sub_add_cancel ha, take_succ_eq_getD (d := d) (by omega),
        drop_append_singleton (by simp)] at hx
      rw [List.mem_singleton.1 hx]
      exact hlast y (List.mem_of_mem_take hy))
  rw [mergeHi.eq_1]
  by_cases ha1 : a.size - 1 = 0
  · rw [if_pos (by simpa using ha1)]
    exact ⟨_, rfl, hs₁.finish_eq (Or.inl (by simpa using ha1))⟩
  rw [if_neg (by simpa using ha1)]
  by_cases hb1 : b.size = 1
  · rw [if_pos (by simpa using hb1)]
    refine ⟨_, rfl, hs₁.finishFirstB_eq d (by simpa using hb1) fun x hx => ?_⟩
    exact hfirst x (List.mem_of_mem_take hx)
  rw [if_neg (by simpa using hb1)]
  exact mergeHiSteps_eq hp hlt hA hB hSA hSB hfirst _ _ _
    ⟨hs₁, by simp; omega, by simp; omega, by simp⟩

end Back

/-! ### Merging two adjacent runs of the items -/

section Splice

variable {items : Array α} {pre mid post : List α}

theorem getD_of_toList_eq (h : items.toList = pre ++ mid ++ post) {i : Nat} (hi : i < mid.length)
    (d : α) : items.getD (pre.length + i) d = mid[i] := by
  rw [Array.getD_eq_getD_getElem?, ← Array.getElem?_toList, h, List.append_assoc,
    List.getElem?_append_right (by omega), Nat.add_sub_cancel_left,
    List.getElem?_append_left hi, List.getElem?_eq_getElem hi]
  rfl

theorem extract_of_toList_eq (h : items.toList = pre ++ mid ++ post) {i j : Nat} (hij : i ≤ j)
    (hj : j ≤ mid.length) :
    (items.extract (pre.length + i) (pre.length + j)).toList = (mid.drop i).take (j - i) := by
  rw [Array.toList_extract, List.extract_eq_take_drop, h, List.append_assoc,
    List.drop_length_add_append, List.drop_append_of_le_length (by omega), Nat.add_sub_add_left,
    List.take_append_of_le_length (by simp; omega)]

theorem splice_of_toList_eq (h : items.toList = pre ++ mid ++ post) {i len : Nat}
    (hlen : i + len = mid.length) (part : Array α) :
    (splice items (pre.length + i) len part).toList = pre ++ mid.take i ++ part.toList ++ post := by
  have hsize : items.size = pre.length + mid.length + post.length := by
    rw [← Array.length_toList, h]
    simp only [List.length_append]
  have hfront : (pre ++ (mid ++ post)).take (pre.length + i) = pre ++ mid.take i := by
    rw [List.take_length_add_append, List.take_append_of_le_length (by omega)]
  have hback : (pre ++ (mid ++ post)).drop (pre.length + i + len) = post := by
    rw [Nat.add_assoc, hlen, List.drop_length_add_append, List.drop_left]
  simp only [splice, Array.toList_append, Array.toList_extract, List.extract_eq_take_drop,
    List.drop_zero, Nat.sub_zero, h, List.append_assoc]
  rw [hfront, hback, List.take_of_length_le (l := post) (by omega)]
  simp

end Splice

section Runs

variable {p : α → α → Bool} {S : α → Prop} {lt : α → α → Except ε Bool} {d : α}
variable (hp : StrictWeakOn p S) (hlt : ∀ x y, S x → S y → lt x y = pure (p x y))
include hp hlt

omit hlt in
theorem head_le_of_sorted {L : List α} (hL : L.Pairwise (fun x y => p y x = false))
    (hS : ∀ x ∈ L, S x) (h0 : 0 < L.length) :
    ∀ x ∈ L, p x L[0] = false ∧ p L[L.length - 1] x = false := by
  intro x hx
  obtain ⟨i, hi, rfl⟩ := List.mem_iff_getElem.1 hx
  have hpw := List.pairwise_iff_getElem.1 hL
  constructor
  · rcases Nat.eq_zero_or_pos i with rfl | hi0
    · exact hp.irrefl (hS _ (List.getElem_mem _))
    · exact hpw 0 i h0 hi hi0
  · rcases Nat.lt_or_ge i (L.length - 1) with hi' | hi'
    · exact hpw i (L.length - 1) hi (by omega) hi'
    · have : i = L.length - 1 := by omega
      subst this
      exact hp.irrefl (hS _ (List.getElem_mem _))

/-- `mergeRuns` replaces two adjacent nonempty sorted runs of the items by their merge. -/
theorem mergeRuns_eq {items : Array α} {pre A B post : List α} (mg : Nat)
    (h : items.toList = pre ++ A ++ B ++ post) (hA0 : 1 ≤ A.length) (hB0 : 1 ≤ B.length)
    (hsA : A.Pairwise (fun x y => p y x = false)) (hsB : B.Pairwise (fun x y => p y x = false))
    (hSA : ∀ x ∈ A, S x) (hSB : ∀ y ∈ B, S y) :
    ∃ r, mergeRuns lt d items pre.length A.length B.length mg = pure r ∧
      r.1.toList = pre ++ List.merge A B (notAfter p) ++ post := by
  have hA' : items.toList = pre ++ A ++ (B ++ post) := by rw [h, List.append_assoc]
  have hB' : items.toList = (pre ++ A) ++ B ++ post := h
  have hendsA := head_le_of_sorted hp hsA hSA hA0
  have hendsB := head_le_of_sorted hp hsB hSB hB0
  have hb₀ : S B[0] := hSB _ (List.getElem_mem _)
  have hal : S A[A.length - 1] := hSA _ (List.getElem_mem _)
  -- the first gallop: the items of `A` that the first item of `B` is not before stay
  obtain ⟨k, hk, hkey⟩ := boundary_after hp hsA hSA hb₀
  have hgR : gallopRight lt (items.getD (pre.length + A.length) d)
      (fun i => items.getD (pre.length + i) d) A.length 0 = pure k :=
    gallopRight_eq lt _ _ hA0 hk fun i hi => by
      have hbi : items.getD (pre.length + A.length) d = B[0] := by
        simpa using getD_of_toList_eq hB' (i := 0) hB0 d
      rw [hbi, getD_of_toList_eq hA' hi, hlt _ _ hb₀ (hSA _ (List.getElem_mem _)), hkey i hi]
  have hfront : ∀ x ∈ A.take k, ∀ y ∈ B, p y x = false := fun x hx y hy =>
    hp.trans _ _ _ (hSA x (List.mem_of_mem_take hx)) hb₀ (hSB y hy)
      (key_notBefore_take hkey x hx) (hendsB y hy).1
  rw [mergeRuns.eq_1]
  dsimp only
  rw [hgR, pure_bind]
  by_cases hk' : A.length - k = 0
  · -- every item of `A` stays before `B`
    rw [if_pos (by simpa using hk')]
    refine ⟨_, rfl, ?_⟩
    rw [List.merge_of_le fun x y hx hy => by
      simpa using hfront x (by rw [List.take_of_length_le (by omega)]; exact hx) y hy, h]
    simp
  rw [if_neg (by simpa using hk')]
  -- the second gallop: the items of `B` that are not before the last item of `A` stay
  obtain ⟨k₂, hk₂, hkey₂⟩ := boundary_before hp hsB hSB hal
  have hgL : gallopLeft lt (items.getD (pre.length + k + (A.length - k) - 1) d)
      (fun i => items.getD (pre.length + A.length + i) d) B.length (B.length - 1) = pure k₂ :=
    gallopLeft_eq lt _ _ (by omega) hk₂ fun i hi => by
      have hai : items.getD (pre.length + k + (A.length - k) - 1) d = A[A.length - 1] := by
        rw [show pre.length + k + (A.length - k) - 1 = pre.length + (A.length - 1) by omega]
        exact getD_of_toList_eq hA' (by omega) d
      have hbi : items.getD (pre.length + A.length + i) d = B[i] := by
        simpa using getD_of_toList_eq hB' hi d
      rw [hai, hbi, hlt _ _ (hSB _ (List.getElem_mem _)) hal, hkey₂ i hi]
  rw [hgL, pure_bind]
  have hback : ∀ y ∈ B.drop k₂, ∀ x ∈ A, p y x = false := fun y hy x hx =>
    hp.trans _ _ _ (hSA x hx) hal (hSB y (List.mem_of_mem_drop hy)) (hendsA x hx).2
      (drop_notBefore_key hkey₂ y hy)
  by_cases hk₂' : k₂ = 0
  · -- every item of `B` stays after `A`
    rw [if_pos (by simpa using hk₂')]
    refine ⟨_, rfl, ?_⟩
    rw [List.merge_of_le fun x y hx hy => by
      simpa using hback y (by rw [hk₂', List.drop_zero]; exact hy) x hx, h]
    simp
  rw [if_neg (by simpa using hk₂')]
  have hmid : items.toList = pre ++ (A ++ B.take k₂) ++ (B.drop k₂ ++ post) :=
    calc items.toList = pre ++ A ++ (B.take k₂ ++ B.drop k₂) ++ post := by
          rw [List.take_append_drop, h]
      _ = pre ++ (A ++ B.take k₂) ++ (B.drop k₂ ++ post) := by simp only [List.append_assoc]
  have hea : (items.extract (pre.length + k) (pre.length + A.length)).toList = A.drop k := by
    rw [extract_of_toList_eq hA' (by omega) (Nat.le_refl _), List.take_of_length_le (by simp)]
  have heb : (items.extract (pre.length + A.length) (pre.length + A.length + k₂)).toList =
      B.take k₂ := by
    have := extract_of_toList_eq hB' (i := 0) (j := k₂) (Nat.zero_le _) hk₂
    simpa using this
  generalize items.extract (pre.length + k) (pre.length + A.length) = ea at hea
  generalize items.extract (pre.length + A.length) (pre.length + A.length + k₂) = eb at heb
  have hsa : ea.size = A.length - k := by rw [← Array.length_toList, hea, List.length_drop]
  have hsb : eb.size = k₂ := by
    rw [← Array.length_toList, heb, List.length_take]
    omega
  have hsortA : ea.toList.Pairwise (fun x y => p y x = false) := hea ▸ hsA.sublist (List.drop_sublist _ _)
  have hsortB : eb.toList.Pairwise (fun x y => p y x = false) := heb ▸ hsB.sublist (List.take_sublist _ _)
  have hSa : ∀ x ∈ ea.toList, S x := fun x hx => hSA x (List.mem_of_mem_drop (hea ▸ hx))
  have hSb : ∀ y ∈ eb.toList, S y := fun y hy => hSB y (List.mem_of_mem_take (heb ▸ hy))
  have hlastA : ∀ y ∈ eb.toList, p y (ea.getD (ea.size - 1) d) = true := by
    intro y hy
    have hl : ea.getD (ea.size - 1) d = A[A.length - 1] := by
      rw [Array.getD_eq_getD_getElem?, ← Array.getElem?_toList, hea, hsa, List.getElem?_drop,
        show k + (A.length - k - 1) = A.length - 1 by omega, List.getElem?_eq_getElem (by omega)]
      rfl
    rw [hl]
    rw [heb] at hy
    exact take_before_key hkey₂ y hy
  have hfirstB : ∀ x ∈ ea.toList, p (eb.getD 0 d) x = true := by
    intro x hx
    have hf : eb.getD 0 d = B[0] := by
      rw [Array.getD_eq_getD_getElem?, ← Array.getElem?_toList, heb,
        List.getElem?_take_of_lt (by omega), List.getElem?_eq_getElem (by omega)]
      rfl
    rw [hf]
    rw [hea] at hx
    exact key_before_drop hkey x hx
  have hmerge := merge_eq_take_merge_drop p A B k k₂ hfront
    fun y hy x hx => hback y hy x (List.mem_of_mem_drop hx)
  have hput : ∀ merged : Array α, merged.toList = List.merge (A.drop k) (B.take k₂) (notAfter p) →
      (splice items (pre.length + k) (A.length - k + k₂) merged).toList =
        pre ++ List.merge A B (notAfter p) ++ post := by
    intro merged hm
    rw [splice_of_toList_eq hmid (by simp; omega), hm, hmerge,
      List.take_append_of_le_length (by omega)]
    simp
  by_cases hlo : A.length - k ≤ k₂
  · rw [if_pos hlo]
    obtain ⟨⟨merged, mg'⟩, hr, hm⟩ := mergeLo_eq hp hlt hsortA hsortB hSa hSb hlastA
      (by omega) (by omega) hfirstB mg
    rw [hr, pure_bind]
    rw [hea, heb] at hm
    exact ⟨_, rfl, hput merged hm⟩
  · rw [if_neg hlo]
    obtain ⟨⟨merged, mg'⟩, hr, hm⟩ := mergeHi_eq hp hlt hsortA hsortB hSa hSb hfirstB
      (by omega) (by omega) hlastA mg
    rw [hr, pure_bind]
    rw [hea, heb] at hm
    exact ⟨_, rfl, hput merged hm⟩

end Runs

end AuditTrail.Sorting
