import Mathlib

/-!
# Questions asked in order, in a computation that may fail

What `allM`, `anyM`, `foldlM`, `filterM` and `mapM` in `Except` answer when every question does.
-/

namespace AuditTrail

section
variable {ε α β : Type}

theorem allM_eq_ok_true_iff (p : α → Except ε Bool) (xs : List α) :
    xs.allM p = .ok true ↔ ∀ x ∈ xs, p x = .ok true := by
  induction xs with
  | nil => simp [List.allM, pure, Except.pure]
  | cons x xs ih =>
    cases hx : p x with
    | error e => simp [List.allM, hx, bind, Except.bind]
    | ok b =>
      cases b with
      | true => simp [List.allM, hx, bind, Except.bind, ih]
      | false => simp [List.allM, hx, bind, Except.bind, pure, Except.pure]

theorem allM_singleton (p : α → Except ε Bool) (x : α) : [x].allM p = p x := by
  cases hx : p x with
  | error e => simp [List.allM, hx, bind, Except.bind]
  | ok b => cases b <;> simp [List.allM, hx, bind, Except.bind, pure, Except.pure]

theorem anyM_singleton (p : α → Except ε Bool) (x : α) : [x].anyM p = p x := by
  cases hx : p x with
  | error e => simp [List.anyM, hx, bind, Except.bind]
  | ok b => cases b <;> simp [List.anyM, hx, bind, Except.bind, pure, Except.pure]

theorem allM_ok (p : α → Except ε Bool) (xs : List α) (h : ∀ x ∈ xs, ∃ b, p x = .ok b) :
    ∃ b, xs.allM p = .ok b := by
  induction xs with
  | nil => exact ⟨true, rfl⟩
  | cons x xs ih =>
    obtain ⟨b, hx⟩ := h x (by simp)
    obtain ⟨c, hxs⟩ := ih fun y hy => h y (by simp [hy])
    cases b with
    | true => exact ⟨c, by simp [List.allM, hx, hxs, bind, Except.bind]⟩
    | false => exact ⟨false, by simp [List.allM, hx, bind, Except.bind, pure, Except.pure]⟩

theorem anyM_ok (p : α → Except ε Bool) (xs : List α) (h : ∀ x ∈ xs, ∃ b, p x = .ok b) :
    ∃ b, xs.anyM p = .ok b := by
  induction xs with
  | nil => exact ⟨false, rfl⟩
  | cons x xs ih =>
    obtain ⟨b, hx⟩ := h x (by simp)
    obtain ⟨c, hxs⟩ := ih fun y hy => h y (by simp [hy])
    cases b with
    | true => exact ⟨true, by simp [List.anyM, hx, bind, Except.bind, pure, Except.pure]⟩
    | false => exact ⟨c, by simp [List.anyM, hx, hxs, bind, Except.bind]⟩

theorem foldlM_ok (I : β → Prop) (f : β → α → Except ε β) :
    ∀ (xs : List α) (init : β), I init → (∀ b x, I b → x ∈ xs → ∃ b', f b x = .ok b' ∧ I b') →
      ∃ b, xs.foldlM f init = .ok b ∧ I b
  | [], init, h0, _ => ⟨init, rfl, h0⟩
  | x :: xs, init, h0, h => by
    obtain ⟨b, hb, hI⟩ := h init x h0 (by simp)
    obtain ⟨c, hc, hIc⟩ := foldlM_ok I f xs b hI fun b' y hb' hy => h b' y hb' (by simp [hy])
    exact ⟨c, by simp [List.foldlM_cons, hb, hc, bind, Except.bind], hIc⟩

theorem foldlM_answers (f : β → α → Except ε β) (xs : List α) (init : β)
    (h : ∀ b x, x ∈ xs → ∃ b', f b x = .ok b') : ∃ b, xs.foldlM f init = .ok b :=
  (foldlM_ok (fun _ => True) f xs init trivial fun b x _ hx =>
    (h b x hx).imp fun _ hb => ⟨hb, trivial⟩).imp fun _ hb => hb.1

theorem foldlM_ne_error (f : β → α → Except ε β) (xs : List α) (init : β)
    (h : ∀ b x, x ∈ xs → ∃ b', f b x = .ok b') (e : ε) : xs.foldlM f init ≠ .error e := by
  obtain ⟨b, hb⟩ := foldlM_answers f xs init h
  rw [hb]
  exact fun hne => by cases hne

theorem bind_eq_ok {x : Except ε α} {f : α → Except ε β} {b : β} :
    (x >>= f) = .ok b ↔ ∃ a, x = .ok a ∧ f a = .ok b := by
  cases x <;> simp [bind, Except.bind]

theorem mapError_eq_ok {ε' : Type} {x : Except ε α} {f : ε → ε'} {a : α} :
    x.mapError f = .ok a ↔ x = .ok a := by
  cases x <;> simp [Except.mapError]

theorem filterM_eq_ok (p : α → Except ε Bool) (q : α → Bool) (xs : List α)
    (h : ∀ x ∈ xs, p x = .ok (q x)) : xs.filterM p = .ok (xs.filter q) := by
  -- the accumulator holds, reversed, what the items before kept
  have aux : ∀ (ys acc : List α), (∀ x ∈ ys, p x = .ok (q x)) →
      List.filterAuxM p ys acc = .ok ((ys.filter q).reverse ++ acc) := by
    intro ys
    induction ys with
    | nil => intro acc _; rfl
    | cons y ys ih =>
      intro acc hys
      have hy := hys y (by simp)
      have ih := ih (cond (q y) (y :: acc) acc) fun x hx => hys x (by simp [hx])
      simp only [List.filterAuxM, hy, bind, Except.bind, ih]
      cases hq : q y <;> simp [hq]
  simp only [List.filterM, aux xs [] h, bind, Except.bind, pure, Except.pure, List.append_nil,
    List.reverse_reverse]

theorem sublist_of_filterM_eq_ok {p : α → Except ε Bool} {xs ys : List α}
    (h : xs.filterM p = .ok ys) : ys.Sublist xs := by
  -- the accumulator holds, reversed, a sublist of the items before
  have aux : ∀ (zs acc r : List α), List.filterAuxM p zs acc = .ok r →
      ∃ kept : List α, kept.Sublist zs ∧ r = kept.reverse ++ acc := by
    intro zs
    induction zs with
    | nil =>
      intro acc r hr
      cases hr
      exact ⟨[], List.Sublist.slnil, rfl⟩
    | cons z zs ih =>
      intro acc r hr
      simp only [List.filterAuxM, bind, Except.bind] at hr
      cases hz : p z with
      | error e => rw [hz] at hr; cases hr
      | ok b =>
        rw [hz] at hr
        obtain ⟨kept, hkept, rfl⟩ := ih _ r hr
        cases b with
        | true => exact ⟨z :: kept, hkept.cons_cons z, by simp⟩
        | false => exact ⟨kept, hkept.cons z, rfl⟩
  simp only [List.filterM, bind, Except.bind] at h
  split at h
  · cases h
  · rename_i r hr
    obtain ⟨kept, hkept, rfl⟩ := aux xs [] r hr
    cases h
    simpa using hkept

theorem mapM_cons_eq_ok {f : α → Except ε β} {x : α} {xs : List α} {ys : List β} :
    (x :: xs).mapM f = .ok ys ↔ ∃ y zs, f x = .ok y ∧ xs.mapM f = .ok zs ∧ ys = y :: zs := by
  rw [List.mapM_cons]
  cases hx : f x with
  | error e => simp [bind, Except.bind]
  | ok y =>
    cases hxs : xs.mapM f with
    | error e => simp [bind, Except.bind]
    | ok zs => simp [bind, Except.bind, pure, Except.pure, eq_comm]

theorem mapM_eq_ok_of_forall (f : α → Except ε β) :
    ∀ xs : List α, (∀ x ∈ xs, ∃ y, f x = .ok y) → ∃ ys, xs.mapM f = .ok ys
  | [], _ => ⟨[], rfl⟩
  | x :: xs, h => by
    obtain ⟨y, hy⟩ := h x (by simp)
    obtain ⟨zs, hzs⟩ := mapM_eq_ok_of_forall f xs fun x' hx' => h x' (by simp [hx'])
    exact ⟨y :: zs, mapM_cons_eq_ok.2 ⟨y, zs, hy, hzs, rfl⟩⟩

theorem flatMap_of_mapM_eq_ok {γ : Type} (f : α → Except ε β) (g : β → List γ) (h : α → List γ) :
    ∀ xs : List α, (∀ x ∈ xs, ∃ y, f x = .ok y ∧ g y = h x) →
      ∃ ys, xs.mapM f = .ok ys ∧ ys.flatMap g = xs.flatMap h
  | [], _ => ⟨[], rfl, rfl⟩
  | x :: xs, hx => by
    obtain ⟨y, hy, hgy⟩ := hx x (by simp)
    obtain ⟨zs, hzs, hflat⟩ := flatMap_of_mapM_eq_ok f g h xs fun x' hx' => hx x' (by simp [hx'])
    refine ⟨y :: zs, mapM_cons_eq_ok.2 ⟨y, zs, hy, hzs, rfl⟩, ?_⟩
    rw [List.flatMap_cons, List.flatMap_cons, hgy, hflat]

theorem length_of_mapM_eq_ok {f : α → Except ε β} :
    ∀ {xs : List α} {ys : List β}, xs.mapM f = .ok ys → ys.length = xs.length
  | [], ys, h => by
    rw [List.mapM_nil] at h
    cases h
    rfl
  | x :: xs, ys, h => by
    obtain ⟨y, zs, -, hzs, rfl⟩ := mapM_cons_eq_ok.1 h
    simp [length_of_mapM_eq_ok hzs]

theorem mapM_take {f : α → Except ε β} :
    ∀ {xs : List α} {ys : List β}, xs.mapM f = .ok ys → ∀ n, (xs.take n).mapM f = .ok (ys.take n)
  | [], ys, h, n => by
    rw [List.mapM_nil] at h
    cases h
    simp only [List.take_nil, List.mapM_nil]
    rfl
  | x :: xs, ys, h, n => by
    obtain ⟨y, zs, hy, hzs, rfl⟩ := mapM_cons_eq_ok.1 h
    cases n with
    | zero => rfl
    | succ n => exact mapM_cons_eq_ok.2 ⟨y, zs.take n, hy, mapM_take hzs n, rfl⟩

theorem mapM_drop {f : α → Except ε β} :
    ∀ {xs : List α} {ys : List β}, xs.mapM f = .ok ys → ∀ n, (xs.drop n).mapM f = .ok (ys.drop n)
  | [], ys, h, n => by
    rw [List.mapM_nil] at h
    cases h
    simp only [List.drop_nil, List.mapM_nil]
    rfl
  | x :: xs, ys, h, n => by
    obtain ⟨y, zs, hy, hzs, rfl⟩ := mapM_cons_eq_ok.1 h
    cases n with
    | zero => exact h
    | succ n => exact mapM_drop hzs n

end

end AuditTrail
