import Mathlib
import AuditTrail.Report.Paging

/-!
# Page counts are exact

Below `2^53`, rounding up the double nearest to `N / s` gives `⌈N / s⌉` (`pageCount_eq`): a
remainder lifts the scaled quotient more than a half above a multiple of the scale.
-/

namespace AuditTrail

namespace Ratio

theorem roundHalfEven_mul (c : Nat) {q : Nat} (hq : 0 < q) : roundHalfEven (c * q) q = c := by
  unfold roundHalfEven
  rw [Nat.mul_div_cancel _ hq, Nat.mul_mod_left]
  simp only [Nat.mul_zero]
  rw [if_neg (by omega)]

theorem roundHalfEven_bounds (p q : Nat) :
    p / q ≤ roundHalfEven p q ∧ roundHalfEven p q ≤ p / q + 1 := by
  unfold roundHalfEven
  dsimp only
  split <;> omega

theorem roundHalfEven_of_half_lt {p q : Nat} (h : q < 2 * (p % q)) :
    roundHalfEven p q = p / q + 1 := by
  unfold roundHalfEven
  rw [if_pos (Or.inl h)]

theorem ceil_roundHalfEven (a : Nat) {d u : Nat} (hd : 0 < d) (hdu : d < 2 * u) :
    (roundHalfEven (a * u) d + u - 1) / u = (a + d - 1) / d := by
  have hu : 0 < u := by omega
  obtain ⟨c, r, hr, rfl⟩ : ∃ c r, r < d ∧ a = c * d + r :=
    ⟨a / d, a % d, Nat.mod_lt _ hd, (Nat.div_add_mod' a d).symm⟩
  have hp : (c * d + r) * u = r * u + d * (c * u) := by
    rw [Nat.add_mul, Nat.mul_comm d (c * u), Nat.mul_assoc, Nat.mul_comm d u, ← Nat.mul_assoc]
    omega
  have hQ : (c * d + r) * u / d = r * u / d + c * u := by
    rw [hp, Nat.add_mul_div_left _ _ hd]
  have hR : (c * d + r) * u % d = r * u % d := by
    rw [hp, Nat.add_mul_mod_self_left]
  obtain ⟨hlo, hhi⟩ := roundHalfEven_bounds ((c * d + r) * u) d
  rcases Nat.eq_zero_or_pos r with rfl | hr0
  · -- no remainder: the quotient is the multiple `c * u` itself
    have hm : roundHalfEven ((c * d + 0) * u) d = c * u := by
      rw [Nat.add_zero, Nat.mul_right_comm, roundHalfEven_mul _ hd]
    rw [hm, Nat.add_zero]
    have h₁ : (c * u + u - 1) / u = c := Nat.div_eq_of_lt_le (by omega) (by
      rw [Nat.add_mul, Nat.one_mul]; omega)
    have h₂ : (c * d + d - 1) / d = c := Nat.div_eq_of_lt_le (by omega) (by
      rw [Nat.add_mul, Nat.one_mul]; omega)
    rw [h₁, h₂]
  · -- a remainder: the rounded quotient lies in `(c * u, c * u + u]`
    have hru : r * u / d < u := (Nat.div_lt_iff_lt_mul hd).2 (by
      rw [Nat.mul_comm u d]
      exact Nat.mul_lt_mul_of_pos_right hr hu)
    have hm_lo : c * u < roundHalfEven ((c * d + r) * u) d := by
      rcases Nat.eq_zero_or_pos (r * u / d) with h0 | h0
      · -- the scaled remainder is below the divisor, and more than half of it
        have hsmall : r * u < d := by
          rw [Nat.div_eq_zero_iff] at h0
          omega
        have hu_le : u ≤ r * u := Nat.le_mul_of_pos_left u hr0
        rw [roundHalfEven_of_half_lt (by rw [hR, Nat.mod_eq_of_lt hsmall]; omega)]
        omega
      · omega
    have hm_hi : roundHalfEven ((c * d + r) * u) d ≤ c * u + u := by omega
    generalize roundHalfEven ((c * d + r) * u) d = m at hm_lo hm_hi ⊢
    have h₁ : (m + u - 1) / u = c + 1 :=
      Nat.div_eq_of_lt_le (by rw [Nat.add_mul, Nat.one_mul]; omega)
        (by rw [Nat.add_mul, Nat.add_mul, Nat.one_mul]; omega)
    have h₂ : (c * d + r + d - 1) / d = c + 1 :=
      Nat.div_eq_of_lt_le (by rw [Nat.add_mul, Nat.one_mul]; omega)
        (by rw [Nat.add_mul, Nat.add_mul, Nat.one_mul]; omega)
    rw [h₁, h₂]

theorem scale_spec {a d : Nat} (ha : a ≠ 0) (ha' : a < 2 ^ 53) (hd : d ≠ 0) (hd' : d < 2 ^ 53) :
    0 ≤ scale a d ∧ d < 2 * 2 ^ (scale a d).toNat := by
  have hla : a.log2 < 53 := (Nat.log2_lt ha).2 ha'
  have hld : d.log2 < 53 := (Nat.log2_lt hd).2 hd'
  -- whichever way the first guess is corrected, the scale is at least `log2 d`
  have hk : (d.log2 : Int) ≤ scale a d ∧ scale a d ≤ 105 := by
    unfold scale
    dsimp only
    split <;> omega
  refine ⟨by omega, ?_⟩
  calc d < 2 ^ (d.log2 + 1) := Nat.lt_log2_self
    _ ≤ 2 ^ ((scale a d).toNat + 1) := Nat.pow_le_pow_right (by decide) (by omega)
    _ = 2 * 2 ^ (scale a d).toNat := by rw [Nat.pow_succ, Nat.mul_comm]

theorem mantissa_eq {a d : Nat} (hk : 0 ≤ scale a d) :
    mantissa a d = roundHalfEven (a * 2 ^ (scale a d).toNat) d := by
  unfold mantissa scaled
  rw [if_pos hk]
  rfl

/-- The double nearest to a quotient of numbers below `2^53`, rounded up, is the quotient
rounded up. -/
theorem ceil?_eq {a d : Nat} (ha : a ≠ 0) (ha' : a < 2 ^ 53) (hd : d ≠ 0) (hd' : d < 2 ^ 53) :
    ceil? a d = some (((a + d - 1) / d : Nat) : Int) := by
  obtain ⟨hk, hdk⟩ := scale_spec ha ha' hd hd'
  have hceil := ceil_roundHalfEven a (Nat.pos_of_ne_zero hd) hdk
  rw [← mantissa_eq hk] at hceil
  unfold ceil?
  simp only [Int.natAbs_natCast, Int.natCast_nonneg, Int.not_lt.2, if_false]
  rw [if_neg (by omega)]
  by_cases hk0 : scale a d ≤ 0
  · -- scale zero: the divisor is one and the double is the integer itself
    have hz : scale a d = 0 := by omega
    rw [hz] at hceil
    have hv : mantissa a d * Nat.pow 2 (-scale a d).toNat = (a + d - 1) / d := by
      rw [hz, ← hceil]
      simp
    have hd1 : d = 1 := by
      rw [hz] at hdk
      simp at hdk
      omega
    have hsmall : (a + d - 1) / d < Nat.pow 2 1024 := by
      rw [hd1, Nat.div_one, Nat.add_sub_cancel]
      exact Nat.lt_of_lt_of_le ha' (Nat.pow_le_pow_right (by decide) (by decide))
    rw [if_pos hk0, hv, if_neg (Nat.not_le.2 hsmall)]
  · rw [if_neg hk0]
    exact congrArg (fun n : Nat => some (n : Int)) hceil

end Ratio

namespace Numeric

theorem isZero_int (n : Int) : (Numeric.int n).isZero = decide (n = 0) := by
  simp only [isZero, toExact, Exact.isInt, Exact.same, Exact.ofInt, Exact.cmp]
  rw [Bool.eq_iff_iff, beq_iff_eq, Int.compare_eq_eq, decide_eq_true_eq]
  simp

theorem ceilDiv_int {a d : Nat} (ha : a ≠ 0) (ha' : a < 2 ^ 53) (hd : d ≠ 0)
    (hd' : d < 2 ^ 53) :
    ceilDiv (.int a) (.int d) = .ok (((a + d - 1) / d : Nat) : Int) := by
  rw [ceilDiv.eq_1, if_neg (by omega), if_neg (by omega), Int.natAbs_natCast,
    Ratio.ceil?_eq ha ha' hd hd']

end Numeric

namespace Pagination

/-- A listing of fewer than `2^53` events in pages of fewer than `2^53` has `⌈N / s⌉` pages. -/
theorem pageCount_eq (N : Nat) {s : Nat} (hN : N < 2 ^ 53) (hs : s ≠ 0) (hs' : s < 2 ^ 53) :
    pageCount (.int N) (.int s) = .ok (((N + s - 1) / s : Nat) : Int) := by
  unfold pageCount
  rw [Numeric.isZero_int]
  by_cases hN0 : N = 0
  · subst hN0
    rw [Nat.zero_add, Nat.div_eq_of_lt (by omega)]
    rfl
  · rw [if_neg (by simpa using hN0)]
    exact Numeric.ceilDiv_int hN0 hN hs hs'

theorem build_eq (N page : Nat) {s : Nat} (hN : N < 2 ^ 53) (hs : s ≠ 0) (hs' : s < 2 ^ 53) :
    build N page s =
      .ok { total := N, page := page, pageSize := s, totalPages := ((N + s - 1) / s : Nat),
            hasNext := decide ((page : Int) < ((N + s - 1) / s : Nat)),
            hasPrevious := decide ((page : Int) > 1) } := by
  unfold build
  rw [pageCount_eq N hN hs hs']
  rfl

end Pagination

end AuditTrail
