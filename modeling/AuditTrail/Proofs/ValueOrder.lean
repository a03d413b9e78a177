import AuditTrail.Proofs.StableSort
import AuditTrail.Value.Compare

/-!
# The store's order on the values it sorts

On sortable values the store's less-than always answers with `Value.storeBefore`, a strict weak
order (`strictWeakOn_storeBefore`); a NaN breaks it.
-/

namespace AuditTrail

open Sorting

namespace Exact

def Ordered : Exact → Prop
  | .nan => False
  | .finite _ d => 0 < d
  | _ => True

theorem cross_le_trans {a b c : Int} {da db dc : Nat} (hdb : 0 < db)
    (hab : a * db ≤ b * da) (hbc : b * dc ≤ c * db) : a * dc ≤ c * da := by
  have h₁ : a * db * dc ≤ b * da * dc := Int.mul_le_mul_of_nonneg_right hab (by omega)
  have h₂ : b * dc * da ≤ c * db * da := Int.mul_le_mul_of_nonneg_right hbc (by omega)
  have h₃ : a * dc * db ≤ c * da * db :=
    calc a * dc * db = a * db * dc := Int.mul_right_comm a dc db
      _ ≤ b * da * dc := h₁
      _ = b * dc * da := Int.mul_right_comm b da dc
      _ ≤ c * db * da := h₂
      _ = c * da * db := Int.mul_right_comm c db da
  exact Int.le_of_mul_le_mul_right h₃ (by omega)

theorem strictWeakOn_cmp : StrictWeakOn (fun x y => cmp x y == .lt) Ordered where
  asymm x y hx hy h := by
    cases x <;> cases y <;> simp_all [Ordered, cmp]
    rename_i a da b db
    rw [Int.compare_eq_lt] at h
    rw [Int.compare_eq_lt]
    omega
  trans x y z hx hy hz hxy hyz := by
    cases x <;> cases y <;> cases z <;> simp_all [Ordered, cmp]
    rename_i a da b db c dc
    rw [Int.compare_eq_lt, Int.not_lt] at hxy hyz ⊢
    exact cross_le_trans hy hxy hyz

theorem ordered_ofFloat {x : Float} (hx : x.isNaN = false) : (ofFloat x).Ordered := by
  unfold ofFloat
  rw [hx, if_neg Bool.false_ne_true]
  by_cases hinf : x.isInf = true
  · rw [if_pos hinf]
    by_cases hneg : x < 0 <;> simp [hneg, Ordered]
  · rw [if_neg hinf]
    dsimp only
    split
    · simp [Ordered]
    · exact Nat.two_pow_pos _

theorem cmp_eq_of_not_lt {x y : Exact} (hx : x.Ordered) (hy : y.Ordered)
    (hxy : (cmp x y == .lt) = false) (hyx : (cmp y x == .lt) = false) : cmp x y = .eq := by
  cases x <;> cases y <;> simp only [Ordered] at hx hy
  case finite.finite a da b db =>
    have h₁ : ¬ a * db < b * da := fun h => by simp [cmp, Int.compare_eq_lt.2 h] at hxy
    have h₂ : ¬ b * da < a * db := fun h => by simp [cmp, Int.compare_eq_lt.2 h] at hyx
    exact Int.compare_eq_eq.2 (by omega)
  all_goals simp_all [cmp]

end Exact

namespace Surrogate

theorem code_injective {c d : Char} (h : code c = code d) : c = d := by
  -- a character's code is its stand-in unit, in the surrogate range, or its own number
  have hcode : ∀ c : Char, (0xD800 ≤ code c ∧ code c ≤ 0xDFFF ∧ c.toNat = offset + code c) ∨
      code c = c.toNat := by
    intro c
    unfold code unit?
    by_cases hc : (isUnit (c.toNat - offset) && offset ≤ c.toNat) = true
    · rw [if_pos hc, Option.getD_some]
      rw [Bool.and_eq_true, decide_eq_true_eq] at hc
      obtain ⟨hu, hoff⟩ := hc
      unfold isUnit at hu
      rw [Bool.and_eq_true, decide_eq_true_eq, decide_eq_true_eq] at hu
      omega
    · rw [if_neg hc]
      exact Or.inr rfl
  have hc : c.toNat < 0xd800 ∨ (0xdfff < c.toNat ∧ c.toNat < 0x110000) := c.valid
  have hd : d.toNat < 0xd800 ∨ (0xdfff < d.toNat ∧ d.toNat < 0x110000) := d.valid
  apply Char.toNat_inj.1
  rcases hcode c with hc' | hc' <;> rcases hcode d with hd' | hd' <;> omega

theorem codes_injective {s t : String} (h : s.toList.map code = t.toList.map code) : s = t :=
  String.ext ((List.map_inj_right fun _ _ => code_injective).1 h)

end Surrogate

namespace Value

/-- The values the store sorts by a strict weak order: null, numbers that are not NaN, texts,
object ids and stamps. -/
def Sortable : Value → Prop
  | .null | .int _ | .str _ | .member _ _ | .objectId _ | .stamp _ => True
  | .float x => x.isNaN = false
  | _ => False

/-- How the store orders two sortable values of one kind: object ids by number, stamps by
instant, texts by the codes of their characters, numbers by exact value. -/
def kindBefore (a b : Value) : Bool :=
  match a, b with
  | .objectId x, .objectId y => decide (x < y)
  | .stamp s, .stamp t => decide (s.utc < t.utc)
  | a, b => match a.textOf?, b.textOf? with
    | some x, some y => Surrogate.textCmp x y == .lt
    | _, _ => match a.looseNumber?, b.looseNumber? with
      | some x, some y => Exact.cmp x y == .lt
      | _, _ => false

/-- The store's order on sortable values: by the ranks of their kinds, then within a kind. -/
def storeBefore (a b : Value) : Bool :=
  if a.rank = b.rank then kindBefore a b else decide (a.rank < b.rank)

theorem sortLt_eq_ok {a b : Value} (ha : a.Sortable) (hb : b.Sortable) :
    sortLt a b = .ok (storeBefore a b) := by
  cases a <;> cases b <;>
    simp_all [Sortable, sortLt, sortRank, storeBefore, kindBefore, rank, textOf?, looseNumber?]

/-! ### Within a kind -/

def num (v : Value) : Exact := (looseNumber? v).getD .nan

def codes (v : Value) : List Nat := ((textOf? v).getD "").toList.map Surrogate.code

def whole : Value → Int
  | .objectId n => n
  | .stamp t => t.utc
  | _ => 0

theorem ordered_num {v : Value} (hv : v.Sortable) (hr : v.rank = 10) : (num v).Ordered := by
  cases v with
  | float x => exact Exact.ordered_ofFloat hv
  | _ => simp_all [Sortable, rank, num, looseNumber?, Exact.Ordered]

theorem kindBefore_of_rank_ten {a b : Value} (ha : a.Sortable) (hb : b.Sortable)
    (hra : a.rank = 10) (hrb : b.rank = 10) :
    kindBefore a b = (Exact.cmp (num a) (num b) == .lt) := by
  cases a <;> cases b <;> simp_all [Sortable, rank, kindBefore, num, textOf?, looseNumber?]

theorem kindBefore_of_rank_fifteen {a b : Value} (ha : a.Sortable) (hb : b.Sortable)
    (hra : a.rank = 15) (hrb : b.rank = 15) :
    kindBefore a b = (compare (codes a) (codes b) == .lt) := by
  cases a <;> cases b <;> simp_all [Sortable, rank, kindBefore, codes, textOf?, Surrogate.textCmp]

theorem kindBefore_of_rank_other {a b : Value} (ha : a.Sortable) (hb : b.Sortable)
    (hr : a.rank = b.rank) (h10 : a.rank ≠ 10) (h15 : a.rank ≠ 15) :
    kindBefore a b = decide (whole a < whole b) := by
  cases a <;> cases b <;> simp_all [Sortable, rank, kindBefore, whole, textOf?, looseNumber?]
  exact decide_eq_decide.2 Iff.rfl

theorem strictWeakOn_kindBefore (n : Nat) :
    StrictWeakOn kindBefore (fun a => a.Sortable ∧ a.rank = n) := by
  by_cases h10 : n = 10
  · subst h10
    exact (Exact.strictWeakOn_cmp.comap num).mono (fun a ha => ordered_num ha.1 ha.2)
      fun a b ha hb => kindBefore_of_rank_ten ha.1 hb.1 ha.2 hb.2
  by_cases h15 : n = 15
  · subst h15
    exact ((StrictWeakOn.of_cmp (S := fun _ => True) compare).comap codes).mono
      (fun _ _ => trivial) fun a b ha hb => kindBefore_of_rank_fifteen ha.1 hb.1 ha.2 hb.2
  · have hint : StrictWeakOn (fun (x y : Int) => decide (x < y)) (fun _ => True) :=
      ⟨fun x y _ _ h => by simp at h ⊢; omega, fun x y z _ _ _ h₁ h₂ => by simp at h₁ h₂ ⊢; omega⟩
    exact (hint.comap whole).mono (fun _ _ => trivial) fun a b ha hb =>
      kindBefore_of_rank_other ha.1 hb.1 (ha.2.trans hb.2.symm) (by omega) (by omega)

/-- The store's order is a strict weak order on the sortable values. -/
theorem strictWeakOn_storeBefore : StrictWeakOn storeBefore Sortable :=
  StrictWeakOn.byRank rank strictWeakOn_kindBefore

/-! ### Ties -/

def Naive : Value → Prop
  | .stamp t => t.offset = none
  | _ => True

theorem rank_eq_of_tied {a b : Value} (hab : storeBefore a b = false)
    (hba : storeBefore b a = false) : a.rank = b.rank := by
  unfold storeBefore at hab hba
  by_cases h : a.rank = b.rank
  · exact h
  · rw [if_neg h, decide_eq_false_iff_not] at hab
    rw [if_neg (Ne.symm h), decide_eq_false_iff_not] at hba
    omega

theorem storeEq_of_tied {a b : Value} (ha : a.Sortable) (hb : b.Sortable) (hna : a.Naive)
    (hnb : b.Naive) (hab : storeBefore a b = false) (hba : storeBefore b a = false) :
    storeEq a b = true := by
  have hr := rank_eq_of_tied hab hba
  unfold storeBefore at hab hba
  rw [if_pos hr] at hab
  rw [if_pos hr.symm] at hba
  by_cases h10 : a.rank = 10
  · -- numbers: their exact values compare equal
    rw [kindBefore_of_rank_ten ha hb h10 (hr ▸ h10)] at hab
    rw [kindBefore_of_rank_ten hb ha (hr ▸ h10) h10] at hba
    have heq := Exact.cmp_eq_of_not_lt (ordered_num ha h10) (ordered_num hb (hr ▸ h10)) hab hba
    have hxa : num a ≠ .nan := fun h => by simpa [h, Exact.Ordered] using ordered_num ha h10
    have hxb : num b ≠ .nan := fun h => by
      simpa [h, Exact.Ordered] using ordered_num hb (hr ▸ h10)
    cases a <;> cases b <;> simp_all [Sortable, rank, num, looseNumber?, storeEq, equalityNum?,
      exactNum?, Exact.same]
  by_cases h15 : a.rank = 15
  · -- texts: their codes are equal, so they are
    rw [kindBefore_of_rank_fifteen ha hb h15 (hr ▸ h15)] at hab
    rw [kindBefore_of_rank_fifteen hb ha (hr ▸ h15) h15] at hba
    have heq : codes a = codes b := by
      cases h : compare (codes a) (codes b) with
      | lt => simp [h] at hab
      | eq => exact Std.LawfulEqCmp.eq_of_compare h
      | gt => simp [Std.OrientedCmp.gt_iff_lt.1 h] at hba
    cases a <;> cases b <;> simp_all [Sortable, rank, codes, textOf?, storeEq]
    all_goals exact Surrogate.codes_injective heq
  · -- null, object ids and stamps: their numbers are equal
    rw [kindBefore_of_rank_other ha hb hr h10 h15] at hab
    rw [kindBefore_of_rank_other hb ha hr.symm (hr ▸ h10) (hr ▸ h15)] at hba
    simp only [decide_eq_false_iff_not] at hab hba
    have heq : whole a = whole b := by omega
    cases a <;> cases b <;> simp_all [Sortable, rank, whole, storeEq, Naive, Stamp.utc]

end Value

end AuditTrail
