import Mathlib

/-!
# Stable sorting by a strict weak order

`IsStableSort p S xs ys`: `ys` is `xs` sorted by `p`, ties in their order. Such a sort is unique,
merging two of them gives one, and sorting once per key sorts by all keys.
-/

namespace AuditTrail.Sorting

variable {α : Type}

/-- `p` is a strict weak order on the items satisfying `S`. -/
structure StrictWeakOn (p : α → α → Bool) (S : α → Prop) : Prop where
  asymm : ∀ a b, S a → S b → p a b = true → p b a = false
  trans : ∀ a b c, S a → S b → S c → p b a = false → p c b = false → p c a = false

def notAfter (p : α → α → Bool) (a b : α) : Bool := !p b a

def tied (p : α → α → Bool) (a b : α) : Bool := !p a b && !p b a

@[simp] theorem notAfter_eq_true {p : α → α → Bool} {a b : α} :
    notAfter p a b = true ↔ p b a = false := by
  simp [notAfter]

@[simp] theorem tied_eq_true {p : α → α → Bool} {a b : α} :
    tied p a b = true ↔ p a b = false ∧ p b a = false := by
  simp [tied]

/-- `ys` is `xs` sorted by `p`, the items tied with any one item keeping their order. -/
structure IsStableSort (p : α → α → Bool) (S : α → Prop) (xs ys : List α) : Prop where
  perm : ys.Perm xs
  sorted : ys.Pairwise (fun a b => p b a = false)
  keeps : ∀ a, S a → ys.filter (tied p a) = xs.filter (tied p a)

namespace StrictWeakOn

variable {p : α → α → Bool} {S : α → Prop} {a b c : α}

theorem irrefl (hp : StrictWeakOn p S) (ha : S a) : p a a = false := by
  cases h : p a a with
  | false => rfl
  | true => exact h.symm.trans (hp.asymm a a ha ha h)

theorem lt_of_lt_of_le (hp : StrictWeakOn p S) (ha : S a) (hb : S b) (hc : S c)
    (hab : p a b = true) (hbc : p c b = false) : p a c = true := by
  cases h : p a c with
  | true => rfl
  | false =>
    have : p a b = false := hp.trans b c a hb hc ha hbc h
    rw [hab] at this
    exact this.symm

theorem lt_of_le_of_lt (hp : StrictWeakOn p S) (ha : S a) (hb : S b) (hc : S c)
    (hab : p b a = false) (hbc : p b c = true) : p a c = true := by
  cases h : p a c with
  | true => rfl
  | false =>
    have : p b c = false := hp.trans c a b hc ha hb h hab
    rw [hbc] at this
    exact this.symm

theorem lt_trans (hp : StrictWeakOn p S) (ha : S a) (hb : S b) (hc : S c)
    (hab : p a b = true) (hbc : p b c = true) : p a c = true :=
  hp.lt_of_le_of_lt ha hb hc (hp.asymm a b ha hb hab) hbc

theorem flip (hp : StrictWeakOn p S) : StrictWeakOn (fun a b => p b a) S where
  asymm a b ha hb h := hp.asymm b a hb ha h
  trans a b c ha hb hc hab hbc := hp.trans c b a hc hb ha hbc hab

theorem comap {β : Type} (hp : StrictWeakOn p S) (f : β → α) :
    StrictWeakOn (fun a b => p (f a) (f b)) (fun a => S (f a)) where
  asymm a b ha hb h := hp.asymm (f a) (f b) ha hb h
  trans a b c ha hb hc hab hbc := hp.trans (f a) (f b) (f c) ha hb hc hab hbc

theorem mono (hp : StrictWeakOn p S) {q : α → α → Bool} {T : α → Prop} (hT : ∀ a, T a → S a)
    (hq : ∀ a b, T a → T b → q a b = p a b) : StrictWeakOn q T where
  asymm a b ha hb h := by
    rw [hq b a hb ha]
    exact hp.asymm a b (hT a ha) (hT b hb) (by rwa [← hq a b ha hb])
  trans a b c ha hb hc hab hbc := by
    rw [hq c a hc ha]
    exact hp.trans a b c (hT a ha) (hT b hb) (hT c hc) (by rwa [← hq b a hb ha])
      (by rwa [← hq c b hc hb])

theorem of_cmp (cmp : α → α → Ordering) [Std.TransCmp cmp] :
    StrictWeakOn (fun a b => cmp a b == .lt) S where
  asymm a b _ _ h := by
    have hlt : cmp a b = .lt := by simpa using h
    simp [Std.OrientedCmp.gt_of_lt hlt]
  trans a b c _ _ _ hab hbc := by
    have hle₁ : (cmp a b).isLE := Ordering.isLE_iff_ne_gt.2 fun h => by
      simp [Std.OrientedCmp.gt_iff_lt.1 h] at hab
    have hle₂ : (cmp b c).isLE := Ordering.isLE_iff_ne_gt.2 fun h => by
      simp [Std.OrientedCmp.gt_iff_lt.1 h] at hbc
    have hle : (cmp a c).isLE := Std.TransCmp.isLE_trans hle₁ hle₂
    cases h : cmp c a with
    | lt => simp [Std.OrientedCmp.gt_of_lt h] at hle
    | eq => rfl
    | gt => rfl

theorem byRank (r : α → Nat) {q : α → α → Bool}
    (hq : ∀ n, StrictWeakOn q (fun a => S a ∧ r a = n)) :
    StrictWeakOn (fun a b => if r a = r b then q a b else decide (r a < r b)) S where
  asymm a b ha hb h := by
    by_cases hr : r a = r b
    · rw [if_pos hr] at h
      rw [if_pos hr.symm]
      exact (hq (r b)).asymm a b ⟨ha, hr⟩ ⟨hb, rfl⟩ h
    · rw [if_neg hr, decide_eq_true_eq] at h
      rw [if_neg (Ne.symm hr)]
      exact decide_eq_false (by omega)
  trans a b c ha hb hc hab hbc := by
    have hba : r a ≤ r b := by
      by_cases h : r b = r a
      · omega
      · rw [if_neg h, decide_eq_false_iff_not] at hab
        omega
    have hcb : r b ≤ r c := by
      by_cases h : r c = r b
      · omega
      · rw [if_neg h, decide_eq_false_iff_not] at hbc
        omega
    by_cases hca : r c = r a
    · -- all three share a rank
      have h₁ : r b = r a := by omega
      have h₂ : r c = r b := by omega
      rw [if_pos h₁] at hab
      rw [if_pos h₂] at hbc
      rw [if_pos hca]
      exact (hq (r a)).trans a b c ⟨ha, rfl⟩ ⟨hb, h₁⟩ ⟨hc, hca⟩ hab hbc
    · rw [if_neg hca, decide_eq_false_iff_not]
      omega

end StrictWeakOn

/-! ### Stretches that pass through a merge -/

section MergeAppend

variable (p : α → α → Bool)

theorem merge_append_left_front (A₁ A₂ B : List α) (h : ∀ a ∈ A₁, ∀ b ∈ B, p b a = false) :
    List.merge (A₁ ++ A₂) B (notAfter p) = A₁ ++ List.merge A₂ B (notAfter p) := by
  induction A₁ with
  | nil => rfl
  | cons a A₁ ih =>
    cases B with
    | nil => simp
    | cons b B =>
      have hab : notAfter p a b = true := by simpa using h a (by simp) b (by simp)
      rw [List.cons_append, List.cons_merge_cons_pos _ _ _ hab,
        ih (fun a' ha' b' hb' => h a' (by simp [ha']) b' hb')]
      rfl

theorem merge_append_right_front (A B₁ B₂ : List α) (h : ∀ b ∈ B₁, ∀ a ∈ A, p b a = true) :
    List.merge A (B₁ ++ B₂) (notAfter p) = B₁ ++ List.merge A B₂ (notAfter p) := by
  induction B₁ with
  | nil => rfl
  | cons b B₁ ih =>
    cases A with
    | nil => simp
    | cons a A =>
      have hab : ¬ notAfter p a b = true := by simpa using h b (by simp) a (by simp)
      rw [List.cons_append, List.cons_merge_cons_neg _ _ _ hab,
        ih (fun b' hb' a' ha' => h b' (by simp [hb']) a' ha')]
      rfl

theorem merge_append_left_back (A₁ A₂ B : List α) (h : ∀ a ∈ A₂, ∀ b ∈ B, p b a = true) :
    List.merge (A₁ ++ A₂) B (notAfter p) = List.merge A₁ B (notAfter p) ++ A₂ := by
  induction A₁ generalizing B with
  | nil =>
    simp only [List.nil_append, List.nil_merge]
    induction B with
    | nil => simp
    | cons b B ih =>
      cases A₂ with
      | nil => simp
      | cons a A₂ =>
        have hab : ¬ notAfter p a b = true := by simpa using h a (by simp) b (by simp)
        rw [List.cons_merge_cons_neg _ _ _ hab,
          ih (fun a' ha' b' hb' => h a' ha' b' (by simp [hb']))]
        rfl
  | cons a A₁ ih =>
    induction B with
    | nil => simp
    | cons b B ihB =>
      by_cases hab : notAfter p a b = true
      · rw [List.cons_append, List.cons_merge_cons_pos _ _ _ hab, ih _ h,
          List.cons_merge_cons_pos _ _ _ hab]
        rfl
      · rw [List.cons_append, List.cons_merge_cons_neg _ _ _ hab,
          ← List.cons_append, ihB (fun a' ha' b' hb' => h a' ha' b' (by simp [hb'])),
          List.cons_merge_cons_neg _ _ _ hab]
        rfl

theorem merge_append_right_back (A B₁ B₂ : List α) (h : ∀ b ∈ B₂, ∀ a ∈ A, p b a = false) :
    List.merge A (B₁ ++ B₂) (notAfter p) = List.merge A B₁ (notAfter p) ++ B₂ := by
  induction B₁ generalizing A with
  | nil =>
    simp only [List.nil_append, List.merge_right]
    induction A with
    | nil => simp
    | cons a A ih =>
      cases B₂ with
      | nil => simp
      | cons b B₂ =>
        have hab : notAfter p a b = true := by simpa using h b (by simp) a (by simp)
        rw [List.cons_merge_cons_pos _ _ _ hab,
          ih (fun b' hb' a' ha' => h b' hb' a' (by simp [ha']))]
        rfl
  | cons b B₁ ih =>
    induction A with
    | nil => simp
    | cons a A ihA =>
      by_cases hab : notAfter p a b = true
      · rw [List.cons_append, List.cons_merge_cons_pos _ _ _ hab, ← List.cons_append,
          ihA (fun b' hb' a' ha' => h b' hb' a' (by simp [ha'])),
          List.cons_merge_cons_pos _ _ _ hab]
        rfl
      · rw [List.cons_append, List.cons_merge_cons_neg _ _ _ hab, ih _ h,
          List.cons_merge_cons_neg _ _ _ hab]
        rfl

theorem merge_eq_take_merge_drop (A B : List α) (k k₂ : Nat)
    (hfront : ∀ a ∈ A.take k, ∀ b ∈ B, p b a = false)
    (hback : ∀ b ∈ B.drop k₂, ∀ a ∈ A.drop k, p b a = false) :
    List.merge A B (notAfter p) =
      A.take k ++ List.merge (A.drop k) (B.take k₂) (notAfter p) ++ B.drop k₂ :=
  calc List.merge A B (notAfter p)
      = List.merge (A.take k ++ A.drop k) B (notAfter p) := by rw [List.take_append_drop]
    _ = A.take k ++ List.merge (A.drop k) B (notAfter p) := merge_append_left_front p _ _ _ hfront
    _ = A.take k ++ List.merge (A.drop k) (B.take k₂ ++ B.drop k₂) (notAfter p) := by
        rw [List.take_append_drop]
    _ = A.take k ++ (List.merge (A.drop k) (B.take k₂) (notAfter p) ++ B.drop k₂) := by
        rw [merge_append_right_back p _ _ _ hback]
    _ = A.take k ++ List.merge (A.drop k) (B.take k₂) (notAfter p) ++ B.drop k₂ := by simp

end MergeAppend

/-! ### Stable sorts -/

section Order

variable {p : α → α → Bool} {S : α → Prop}

theorem pairwise_merge (hp : StrictWeakOn p S) {A B : List α}
    (hA : A.Pairwise (fun a b => p b a = false)) (hB : B.Pairwise (fun a b => p b a = false))
    (hSA : ∀ x ∈ A, S x) (hSB : ∀ x ∈ B, S x) :
    (List.merge A B (notAfter p)).Pairwise (fun a b => p b a = false) := by
  induction A generalizing B with
  | nil => simpa using hB
  | cons x A ih =>
    induction B with
    | nil => simpa using hA
    | cons y B ihB =>
      have hx : S x := hSA x (by simp)
      have hy : S y := hSB y (by simp)
      by_cases hxy : notAfter p x y = true
      · rw [List.cons_merge_cons_pos _ _ _ hxy]
        refine List.Pairwise.cons (fun z hz => ?_)
          (ih hA.tail hB (fun z hz => hSA z (by simp [hz])) hSB)
        rw [List.mem_merge, List.mem_cons] at hz
        rcases hz with hz | rfl | hz
        · exact List.rel_of_pairwise_cons hA hz
        · simpa using hxy
        · exact hp.trans x y z hx hy (hSB z (by simp [hz])) (by simpa using hxy)
            (List.rel_of_pairwise_cons hB hz)
      · have hyx : p y x = true := by simpa using hxy
        rw [List.cons_merge_cons_neg _ _ _ hxy]
        refine List.Pairwise.cons (fun z hz => ?_)
          (ihB hB.tail (fun z hz => hSB z (by simp [hz])))
        rw [List.mem_merge, List.mem_cons] at hz
        rcases hz with (rfl | hz) | hz
        · exact hp.asymm y z hy hx hyx
        · exact hp.trans y x z hy hx (hSA z (by simp [hz])) (hp.asymm y x hy hx hyx)
            (List.rel_of_pairwise_cons hA hz)
        · exact List.rel_of_pairwise_cons hB hz

theorem filter_tied_merge (hp : StrictWeakOn p S) {c : α} (hc : S c) {A B : List α}
    (hA : A.Pairwise (fun a b => p b a = false)) (hB : B.Pairwise (fun a b => p b a = false))
    (hSA : ∀ x ∈ A, S x) (hSB : ∀ x ∈ B, S x) :
    (List.merge A B (notAfter p)).filter (tied p c) =
      A.filter (tied p c) ++ B.filter (tied p c) := by
  induction A generalizing B with
  | nil => simp
  | cons x A ih =>
    induction B with
    | nil => simp
    | cons y B ihB =>
      have hx : S x := hSA x (by simp)
      have hy : S y := hSB y (by simp)
      by_cases hxy : notAfter p x y = true
      · rw [List.cons_merge_cons_pos _ _ _ hxy, List.filter_cons, List.filter_cons (x := x),
          ih hA.tail hB (fun z hz => hSA z (by simp [hz])) hSB]
        split <;> rfl
      · have hyx : p y x = true := by simpa using hxy
        rw [List.cons_merge_cons_neg _ _ _ hxy, List.filter_cons,
          ihB hB.tail (fun z hz => hSB z (by simp [hz])), List.filter_cons (x := y)]
        by_cases hcy : tied p c y = true
        · -- `y` is before the whole first run, so nothing tied with it is left there
          have hnone : (x :: A).filter (tied p c) = [] := by
            refine List.filter_eq_nil_iff.2 (fun a ha hca => ?_)
            have hSa : S a := hSA a ha
            have hya : p y a = true := by
              rcases List.mem_cons.1 ha with rfl | ha
              · exact hyx
              · exact hp.lt_of_lt_of_le hy hx hSa hyx (List.rel_of_pairwise_cons hA ha)
            have hca' : p c a = true :=
              hp.lt_of_le_of_lt hc hy hSa (tied_eq_true.1 hcy).2 hya
            rw [(tied_eq_true.1 hca).1] at hca'
            exact Bool.false_ne_true hca'
          simp [hcy, hnone]
        · simp [hcy]

namespace IsStableSort

variable {xs ys : List α}

theorem mem_iff (h : IsStableSort p S xs ys) {a : α} : a ∈ ys ↔ a ∈ xs := h.perm.mem_iff

theorem forall_mem (h : IsStableSort p S xs ys) (hS : ∀ x ∈ xs, S x) : ∀ y ∈ ys, S y :=
  fun y hy => hS y (h.mem_iff.1 hy)

theorem of_sorted (h : xs.Pairwise (fun a b => p b a = false)) : IsStableSort p S xs xs :=
  ⟨List.Perm.refl xs, h, fun _ _ => rfl⟩

/-- Merging the stable sorts of two adjacent pieces gives the stable sort of both. -/
theorem merge (hp : StrictWeakOn p S) {X Y A B : List α} (hA : IsStableSort p S X A)
    (hB : IsStableSort p S Y B) (hX : ∀ x ∈ X, S x) (hY : ∀ y ∈ Y, S y) :
    IsStableSort p S (X ++ Y) (List.merge A B (notAfter p)) where
  perm := (List.merge_perm_append _).trans (hA.perm.append hB.perm)
  sorted := pairwise_merge hp hA.sorted hB.sorted (hA.forall_mem hX) (hB.forall_mem hY)
  keeps c hc := by
    rw [filter_tied_merge hp hc hA.sorted hB.sorted (hA.forall_mem hX) (hB.forall_mem hY),
      hA.keeps c hc, hB.keeps c hc, List.filter_append]

theorem reverse_of_descending (hp : StrictWeakOn p S) (hS : ∀ x ∈ xs, S x)
    (h : xs.Pairwise (fun a b => p b a = true)) : IsStableSort p S xs xs.reverse where
  perm := List.reverse_perm xs
  sorted := List.pairwise_reverse.2 <| h.imp_of_mem fun ha hb hba => hp.asymm _ _ (hS _ hb) (hS _ ha) hba
  keeps c hc := by
    rw [List.filter_reverse]
    -- at most one item is tied with `c`, as two of them would be strictly ordered
    have hties : (xs.filter (tied p c)).Pairwise (fun _ _ => False) := by
      refine (h.sublist List.filter_sublist).imp_of_mem fun {a b} ha hb hba => ?_
      rw [List.mem_filter, tied_eq_true] at ha hb
      have hSa := hS a ha.1
      have hSb := hS b hb.1
      have hbc : p b c = true := hp.lt_of_lt_of_le hSb hSa hc hba ha.2.1
      rw [hb.2.2] at hbc
      exact Bool.false_ne_true hbc
    generalize xs.filter (tied p c) = ts at hties
    match ts, hties with
    | [], _ => rfl
    | [_], _ => rfl
    | _ :: _ :: _, hties => exact (List.rel_of_pairwise_cons hties List.mem_cons_self).elim

theorem reverse (h : IsStableSort p S xs.reverse ys) :
    IsStableSort (fun a b => p b a) S xs ys.reverse where
  perm := (List.reverse_perm ys).trans (h.perm.trans (List.reverse_perm xs))
  sorted := List.pairwise_reverse.2 h.sorted
  keeps c hc := by
    have htied : tied (fun a b => p b a) c = tied p c := by
      funext b
      simp [tied, Bool.and_comm]
    rw [htied, List.filter_reverse, h.keeps c hc, List.filter_reverse, List.reverse_reverse]

theorem eq_of_ties (hp : StrictWeakOn p S) {ys₁ ys₂ : List α} (hperm : ys₁.Perm ys₂)
    (h₁ : ys₁.Pairwise (fun a b => p b a = false)) (h₂ : ys₂.Pairwise (fun a b => p b a = false))
    (hS : ∀ x ∈ ys₁, S x) (hties : ∀ a, S a → ys₁.filter (tied p a) = ys₂.filter (tied p a)) :
    ys₁ = ys₂ := by
  induction ys₁ generalizing ys₂ with
  | nil => exact (List.Perm.eq_nil hperm.symm).symm
  | cons x t ih =>
    cases ys₂ with
    | nil => exact absurd hperm.length_eq (by simp)
    | cons y t₂ =>
      have hx : S x := hS x (by simp)
      -- both heads come first in their list, so they are tied, and the ties of `x` start with them
      have hyx : p y x = false := by
        rcases List.mem_cons.1 (hperm.mem_iff.2 (List.mem_cons_self (a := y))) with rfl | hy
        · exact hp.irrefl hx
        · exact List.rel_of_pairwise_cons h₁ hy
      have hxy : p x y = false := by
        rcases List.mem_cons.1 (hperm.mem_iff.1 (List.mem_cons_self (a := x))) with rfl | hx'
        · exact hp.irrefl hx
        · exact List.rel_of_pairwise_cons h₂ hx'
      have hxx : tied p x x = true := by simp [hp.irrefl hx]
      have hxy' : tied p x y = true := by simp [hxy, hyx]
      have hhead := hties x hx
      rw [List.filter_cons_of_pos hxx, List.filter_cons_of_pos hxy'] at hhead
      obtain rfl := (List.cons.inj hhead).1
      have htail : ∀ a, S a → t.filter (tied p a) = t₂.filter (tied p a) := by
        intro a ha
        have := hties a ha
        rw [List.filter_cons, List.filter_cons] at this
        split at this
        · exact (List.cons.inj this).2
        · exact this
      rw [ih hperm.cons_inv h₁.tail h₂.tail (fun z hz => hS z (by simp [hz])) htail]

/-- A stable sort is unique. -/
theorem unique (hp : StrictWeakOn p S) (hS : ∀ x ∈ xs, S x) {ys₁ ys₂ : List α}
    (h₁ : IsStableSort p S xs ys₁) (h₂ : IsStableSort p S xs ys₂) : ys₁ = ys₂ :=
  eq_of_ties hp (h₁.perm.trans h₂.perm.symm) h₁.sorted h₂.sorted (h₁.forall_mem hS)
    (fun a ha => (h₁.keeps a ha).trans (h₂.keeps a ha).symm)

end IsStableSort

theorem pairwise_lex_of_ties (hp : StrictWeakOn p S) {R : α → α → Prop} {ys : List α}
    (hsorted : ys.Pairwise (fun a b => p b a = false)) (hS : ∀ y ∈ ys, S y)
    (hties : ∀ a ∈ ys, (ys.filter (tied p a)).Pairwise R) :
    ys.Pairwise (fun a b => p b a = false ∧ (p a b = false → R a b)) := by
  induction ys with
  | nil => exact List.Pairwise.nil
  | cons y t ih =>
    have hy : S y := hS y (by simp)
    refine List.Pairwise.cons (fun z hz => ⟨List.rel_of_pairwise_cons hsorted hz, fun hyz => ?_⟩)
      (ih hsorted.tail (fun z hz => hS z (by simp [hz])) (fun a ha => ?_))
    · have hyy : tied p y y = true := by simp [hp.irrefl hy]
      have hy' := hties y (by simp)
      rw [List.filter_cons_of_pos hyy] at hy'
      exact List.rel_of_pairwise_cons hy'
        (List.mem_filter.2 ⟨hz, by simp [hyz, List.rel_of_pairwise_cons hsorted hz]⟩)
    · exact (hties a (by simp [ha])).sublist ((List.sublist_cons_self y t).filter _)

theorem IsStableSort.pairwise_lex (hp : StrictWeakOn p S) {xs ys : List α}
    (h : IsStableSort p S xs ys) (hS : ∀ x ∈ xs, S x) {R : α → α → Prop} (hR : xs.Pairwise R) :
    ys.Pairwise (fun a b => p b a = false ∧ (p a b = false → R a b)) :=
  pairwise_lex_of_ties hp h.sorted (h.forall_mem hS) fun a ha => by
    rw [h.keeps a (h.forall_mem hS a ha)]
    exact hR.sublist List.filter_sublist

end Order

end AuditTrail.Sorting
