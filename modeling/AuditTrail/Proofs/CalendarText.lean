import Mathlib
import AuditTrail.Proofs.EncodedText
import AuditTrail.Proofs.ValueOrder
import AuditTrail.Service.Reports

/-!
# Dates as text

For the days of representable stamps, comparing `YYYY-MM-DD` texts code by code is the calendar
order (`Date.textCmp_text`): the year has four digits, the month and day two.
-/

namespace AuditTrail

/-! ### The order of texts -/

namespace Value

theorem textCmp_eq_compare (s t : String) :
    textCmp s t = compare (s.toList.map Surrogate.code) (t.toList.map Surrogate.code) := rfl

theorem textCmp_self (s : String) : textCmp s s = .eq := by
  rw [textCmp_eq_compare]
  exact Std.ReflCmp.compare_self

theorem textCmp_eq_eq_iff {s t : String} : textCmp s t = .eq ↔ s = t := by
  constructor
  · intro h
    rw [textCmp_eq_compare] at h
    exact Surrogate.codes_injective (Std.LawfulEqCmp.eq_of_compare h)
  · rintro rfl
    exact textCmp_self s

theorem textCmp_eq_gt_iff {s t : String} : textCmp s t = .gt ↔ textCmp t s = .lt := by
  rw [textCmp_eq_compare, textCmp_eq_compare]
  exact Std.OrientedCmp.gt_iff_lt

theorem textCmp_lt_trans {s t u : String} (h₁ : textCmp s t = .lt) (h₂ : textCmp t u = .lt) :
    textCmp s u = .lt := by
  rw [textCmp_eq_compare] at h₁ h₂ ⊢
  exact Std.TransCmp.lt_trans h₁ h₂

theorem textCmp_ne_of_lt {s t : String} (h : textCmp s t = .lt) : s ≠ t := by
  rintro rfl
  rw [textCmp_self] at h
  cases h

end Value

/-! ### Calendar order and the dates of stamps -/

namespace Date

def cmp (a b : Date) : Ordering :=
  (compare a.year b.year).then ((compare a.month b.month).then (compare a.day b.day))

def fields (d : Date) : List Int := [d.year, d.month, d.day]

theorem compare_natCast (m n : Nat) : compare (m : Int) (n : Int) = compare m n := by
  simp only [compare, compareOfLessAndEq, Int.ofNat_lt, Int.natCast_inj]

theorem cmp_eq_compare_fields (a b : Date) : a.cmp b = compare a.fields b.fields := by
  simp only [cmp, fields, List.compare_cons_cons, List.compare_nil_nil, Ordering.then_eq,
    compare_natCast]

theorem cmp_eq_eq_iff {a b : Date} : a.cmp b = .eq ↔ a = b := by
  obtain ⟨y, m, d⟩ := a
  obtain ⟨y', m', d'⟩ := b
  simp [cmp]

theorem cmp_eq_gt_iff {a b : Date} : a.cmp b = .gt ↔ b.cmp a = .lt := by
  rw [cmp_eq_compare_fields, cmp_eq_compare_fields]
  exact Std.OrientedCmp.gt_iff_lt

/-- A date of the years the stamps reach: 1 to 9999, with a month from 1 to 12 and a day
from 1 to 31. -/
structure InRange (d : Date) : Prop where
  year_pos : 1 ≤ d.year
  year_le : d.year ≤ 9999
  month_pos : 1 ≤ d.month
  month_le : d.month ≤ 12
  day_pos : 1 ≤ d.day
  day_le : d.day ≤ 31

theorem ofDays_inRange {z : Int} (h₀ : -719162 ≤ z) (h₁ : z ≤ 2932896) :
    (ofDays z).InRange := by
  have h : 1 ≤ (ofDays z).year ∧ (ofDays z).year ≤ 9999 ∧ 1 ≤ (ofDays z).month ∧
      (ofDays z).month ≤ 12 ∧ 1 ≤ (ofDays z).day ∧ (ofDays z).day ≤ 31 := by
    simp only [ofDays]
    split_ifs <;> omega
  exact ⟨h.1, h.2.1, h.2.2.1, h.2.2.2.1, h.2.2.2.2.1, h.2.2.2.2.2⟩

end Date

namespace Stamp

theorem date_inRange {t : Stamp} (h₀ : minWall ≤ t.wall) (h₁ : t.wall ≤ maxWall) :
    t.date.InRange := by
  have hfirst : Date.toDays ⟨1, 1, 1⟩ = -719162 := by decide
  have hlast : Date.toDays ⟨9999, 12, 31⟩ = 2932896 := by decide
  simp only [minWall, maxWall, hfirst, hlast, microsPerDay, microsPerHour, microsPerMinute,
    microsPerSecond] at h₀ h₁
  unfold date
  simp only [microsPerDay, microsPerHour, microsPerMinute, microsPerSecond]
  exact Date.ofDays_inRange (by omega) (by omega)

/-! ### Numbers written to a width -/

theorem toList_padded (w n : Nat) :
    (padded w n).toList =
      List.replicate (w - (Nat.toDigits 10 n).length) '0' ++ Nat.toDigits 10 n := by
  simp [padded, ← String.length_toList]

theorem toList_padded_succ {w : Nat} (hw : 1 ≤ w) (n : Nat) :
    (padded (w + 1) n).toList = (padded w (n / 10)).toList ++ [(n % 10).digitChar] := by
  rw [toList_padded, toList_padded]
  by_cases hn : n < 10
  · -- a single digit: the rest is zero, written as `w` zeros
    rw [Nat.div_eq_of_lt hn, Nat.mod_eq_of_lt hn, Nat.toDigits_of_lt_base hn, Nat.toDigits_zero]
    simp only [List.length_singleton, List.append_assoc, List.singleton_append]
    rw [show w + 1 - 1 = (w - 1) + 1 by omega, List.replicate_succ']
    simp
  · rw [Nat.toDigits_of_base_le (by omega) (by omega)]
    simp only [List.length_append, List.length_singleton, List.append_assoc]
    congr 2
    omega

theorem length_padded {w n : Nat} (hw : 1 ≤ w) (hn : n < 10 ^ w) :
    (padded w n).toList.length = w := by
  have hlen := (Nat.length_toDigits_le_iff (by decide) (by omega)).2 hn
  rw [toList_padded, List.length_append, List.length_replicate]
  omega

theorem code_digitChar {k : Nat} (hk : k < 10) : Surrogate.code k.digitChar = 48 + k := by
  have h := Nat.toNat_digitChar_of_lt_ten hk
  have hlt : ¬Surrogate.offset ≤ k.digitChar.toNat := by
    rw [h]
    unfold Surrogate.offset
    omega
  rw [Surrogate.code, Surrogate.unit?, if_neg (by simp [hlt]), Option.getD_none, h]

theorem compare_div_then_mod (n m : Nat) :
    (compare (n / 10) (m / 10)).then (compare (n % 10) (m % 10)) = compare n m := by
  rcases Nat.lt_trichotomy (n / 10) (m / 10) with h | h | h
  · rw [compare_lt_iff_lt.2 h, Ordering.lt_then, compare_lt_iff_lt.2 (by omega)]
  · rw [compare_eq_iff_eq.2 h, Ordering.eq_then]
    rcases Nat.lt_trichotomy (n % 10) (m % 10) with h' | h' | h'
    · rw [compare_lt_iff_lt.2 h', compare_lt_iff_lt.2 (by omega)]
    · rw [compare_eq_iff_eq.2 h', compare_eq_iff_eq.2 (by omega)]
    · rw [compare_gt_iff_gt.2 h', compare_gt_iff_gt.2 (by omega)]
  · rw [compare_gt_iff_gt.2 h, Ordering.gt_then, compare_gt_iff_gt.2 (by omega)]

theorem compare_append_of_length_eq {α : Type} [Ord α] :
    ∀ {a b : List α} (c d : List α), a.length = b.length →
      compare (a ++ c) (b ++ d) = (compare a b).then (compare c d)
  | [], [], _, _, _ => rfl
  | x :: a, y :: b, c, d, h => by
    rw [List.cons_append, List.cons_append, List.compare_cons_cons, List.compare_cons_cons,
      compare_append_of_length_eq c d (by simpa using h), Ordering.then_assoc]

theorem compare_codes_padded (w : Nat) {n m : Nat} (hn : n < 10 ^ (w + 1))
    (hm : m < 10 ^ (w + 1)) :
    compare ((padded (w + 1) n).toList.map Surrogate.code)
      ((padded (w + 1) m).toList.map Surrogate.code) = compare n m := by
  induction w generalizing n m with
  | zero =>
    have hn' : n < 10 := by simpa using hn
    have hm' : m < 10 := by simpa using hm
    rw [toList_padded, toList_padded, Nat.toDigits_of_lt_base hn', Nat.toDigits_of_lt_base hm']
    simp only [List.length_singleton, Nat.sub_self, List.replicate_zero, List.nil_append,
      List.map_singleton, code_digitChar hn', code_digitChar hm', List.compare_cons_cons,
      List.compare_nil_nil, Ordering.then_eq]
    rw [← cmp_eq_compare (48 + n), cmp_add_left, cmp_eq_compare]
  | succ w ih =>
    -- the leading digits are the numbers divided by ten, written one digit narrower
    have hn' : n / 10 < 10 ^ (w + 1) := by
      rw [Nat.div_lt_iff_lt_mul (by decide)]
      simpa [pow_succ] using hn
    have hm' : m / 10 < 10 ^ (w + 1) := by
      rw [Nat.div_lt_iff_lt_mul (by decide)]
      simpa [pow_succ] using hm
    rw [toList_padded_succ (by omega) n, toList_padded_succ (by omega) m, List.map_append,
      List.map_append, compare_append_of_length_eq _ _
        (by simp [length_padded (by omega) hn', length_padded (by omega) hm']), ih hn' hm']
    simp only [List.map_singleton, code_digitChar (Nat.mod_lt n (by decide)),
      code_digitChar (Nat.mod_lt m (by decide)), List.compare_cons_cons, List.compare_nil_nil,
      Ordering.then_eq]
    rw [← cmp_eq_compare (48 + n % 10), cmp_add_left, cmp_eq_compare]
    exact compare_div_then_mod n m

end Stamp

/-! ### The text of a date -/

namespace Date

theorem codes_text {d : Date} (hd : 0 ≤ d.year) :
    d.text.toList.map Surrogate.code =
      (Stamp.padded 4 d.year.toNat).toList.map Surrogate.code ++
        45 :: ((Stamp.padded 2 d.month).toList.map Surrogate.code ++
          45 :: (Stamp.padded 2 d.day).toList.map Surrogate.code) := by
  have hdash : Surrogate.code '-' = 45 := by decide
  simp [text, Stamp.dateText, Int.not_lt.2 hd, hdash]

theorem compare_toNat {x y : Int} (hx : 0 ≤ x) (hy : 0 ≤ y) :
    compare x.toNat y.toNat = compare x y := by
  rw [← compare_natCast, Int.toNat_of_nonneg hx, Int.toNat_of_nonneg hy]

/-- The texts of two dates of the years 1 to 9999 compare as the dates do in calendar order. -/
theorem textCmp_text {a b : Date} (ha : a.InRange) (hb : b.InRange) :
    Value.textCmp a.text b.text = a.cmp b := by
  have hy : ∀ d : Date, d.InRange → d.year.toNat < 10 ^ 4 := fun d hd => by
    have := hd.year_le
    omega
  have hmd : ∀ n : Nat, n ≤ 31 → n < 10 ^ 2 := fun n hn => by omega
  have hm : ∀ d : Date, d.InRange → d.month < 10 ^ 2 := fun d hd =>
    hmd _ (hd.month_le.trans (by decide))
  rw [Value.textCmp_eq_compare, codes_text (by linarith [ha.year_pos]),
    codes_text (by linarith [hb.year_pos]),
    Stamp.compare_append_of_length_eq _ _ (by
      rw [List.length_map, List.length_map, Stamp.length_padded (by omega) (hy a ha),
        Stamp.length_padded (by omega) (hy b hb)]),
    List.compare_cons_cons,
    Stamp.compare_append_of_length_eq _ _ (by
      rw [List.length_map, List.length_map, Stamp.length_padded (by omega) (hm a ha),
        Stamp.length_padded (by omega) (hm b hb)]),
    List.compare_cons_cons,
    Stamp.compare_codes_padded 3 (hy a ha) (hy b hb),
    Stamp.compare_codes_padded 1 (hm a ha) (hm b hb),
    Stamp.compare_codes_padded 1 (hmd _ ha.day_le) (hmd _ hb.day_le),
    compare_toNat (by linarith [ha.year_pos]) (by linarith [hb.year_pos])]
  simp [cmp]

theorem text_injective {a b : Date} (ha : a.InRange) (hb : b.InRange) (h : a.text = b.text) :
    a = b := by
  rw [← cmp_eq_eq_iff, ← textCmp_text ha hb, h, Value.textCmp_self]

end Date

end AuditTrail
