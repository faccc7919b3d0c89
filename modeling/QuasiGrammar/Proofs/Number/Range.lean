import Mathlib.Tactic.Ring
import QuasiGrammar.Number.Binary64

/-
  QuasiGrammar.Proofs.Number.Range
  ────────────────────────────────
  The integers that have a nearest finite number of the format.

  The exponent for an integer is fifty-two less than the place of its highest
  digit (`exponentFor_one`), so that its mantissa has fifty-three digits; only
  rounding can make it longer.  The greatest finite number is
  `2 ^ 1024 - 2 ^ 971`, and what is nearer to `2 ^ 1024`, or just as near, is
  out of range (`ofInt?_eq_none_iff`).
-/

namespace QuasiGrammar.Number.Binary64

/-! ## §1. Exponents. -/

theorem exponentFor_one {n : Nat} (hn : n ≠ 0) : exponentFor n 1 = (n.log2 : Int) - 52 := by
  have hlow : 2 ^ n.log2 ≤ n := Nat.log2_self_le hn
  have hguess : max ((n.log2 : Int) - ((1 : Nat).log2 : Int) - 53) minExponent = n.log2 - 53 := by
    have : (1 : Nat).log2 = 0 := by decide
    simp only [this, minExponent]
    omega
  unfold exponentFor scaleDown
  simp only [hguess]
  -- With one digit more than a mantissa has, the first guess is too small by one.
  by_cases h : (n.log2 : Int) - 53 ≥ 0
  · have hpow : 2 ^ 53 * 2 ^ ((n.log2 : Int) - 53).toNat = 2 ^ n.log2 := by
      rw [← Nat.pow_add]
      congr 1
      omega
    have hquot : ¬ n / (1 * Nat.pow 2 ((n.log2 : Int) - 53).toNat) < Nat.pow 2 53 := by
      show ¬ n / (1 * 2 ^ _) < 2 ^ 53
      rw [Nat.one_mul, Nat.not_lt, Nat.le_div_iff_mul_le (Nat.two_pow_pos _), hpow]
      exact hlow
    rw [if_pos h]
    simp only [if_neg hquot]
    omega
  · have hpow : 2 ^ 53 = 2 ^ n.log2 * 2 ^ (-((n.log2 : Int) - 53)).toNat := by
      rw [← Nat.pow_add]
      congr 1
      omega
    have hquot : ¬ n * Nat.pow 2 (-((n.log2 : Int) - 53)).toNat / 1 < Nat.pow 2 53 := by
      show ¬ n * 2 ^ _ / 1 < 2 ^ 53
      rw [Nat.div_one, Nat.not_lt, hpow]
      exact Nat.mul_le_mul_right _ hlow
    rw [if_neg h]
    simp only [if_neg hquot]
    omega

theorem scaleDown_one (n k : Nat) : scaleDown n 1 (k : Int) = (n, 2 ^ k) := by
  simp [scaleDown]

/-! ## §2. Rounding up to a power of two. -/

/-- A quotient below an even number is rounded up to it just if it is at least as near to it as to
the number before. -/
theorem roundHalfEven_eq_iff {n d p : Nat} (hd : 0 < d) (hp : p % 2 = 0) (hn : n < p * d) :
    roundHalfEven n d = p ↔ 2 * (p * d) ≤ 2 * n + d := by
  have hdiv : d * (n / d) + n % d = n := Nat.div_add_mod n d
  have hmod : n % d < d := Nat.mod_lt _ hd
  have hquot : n / d < p := (Nat.div_lt_iff_lt_mul hd).2 hn
  simp only [roundHalfEven, gt_iff_lt, Bool.or_eq_true, Bool.and_eq_true, decide_eq_true_eq,
    beq_iff_eq]
  generalize n / d = q at *
  generalize n % d = r at *
  by_cases hlast : q + 1 = p
  · -- The quotient before rounding is odd, so that a tie goes up.
    subst hlast
    have hmul : (q + 1) * d = d * q + d := by ring
    split <;> omega
  · have hmul : d * (q + 2) ≤ d * p := Nat.mul_le_mul_left _ (by omega)
    rw [Nat.mul_add] at hmul
    rw [Nat.mul_comm p d]
    split <;> omega

/-- A number of fifty-three digits and a fraction is rounded to one of fifty-four just if it is not
nearer to the greatest number of fifty-three digits. -/
theorem roundHalfEven_eq_last_iff {n k : Nat} (hn : n < 2 ^ 53 * 2 ^ (k + 1)) :
    roundHalfEven n (2 ^ (k + 1)) = 2 ^ 53 ↔ (2 ^ 54 - 1) * 2 ^ k ≤ n := by
  have hk : 0 < 2 ^ k := Nat.two_pow_pos k
  rw [Nat.pow_succ 2 k] at hn ⊢
  rw [roundHalfEven_eq_iff (by omega) (by decide) hn]
  omega

/-! ## §3. The range. -/

/-- The least integer without a sign that is nearer to `2 ^ 1024` than to all finite numbers, or
just as near: `2 ^ 1024 - 2 ^ 970`. -/
def bound : Nat := (2 ^ 54 - 1) * 2 ^ 970

theorem lt_pow_mul_pow {n j k : Nat} (h : n.log2 + 1 = j + k) : n < 2 ^ j * 2 ^ k := by
  rw [← Nat.pow_add, ← h]
  exact Nat.lt_log2_self

theorem pow_le_bound {k : Nat} (h : k ≤ 1023) : 2 ^ k ≤ bound :=
  (pow_le_pow_right₀ one_le_two h).trans (by decide +kernel)

theorem bound_le_pow {k : Nat} (h : 1024 ≤ k) : bound ≤ 2 ^ k :=
  le_trans (by decide +kernel) (pow_le_pow_right₀ one_le_two h)

/-- An integer has no nearest number if its exponent, which rounding may raise, is too great. -/
theorem ofInt?_eq_none {i : Int} (hi : i.natAbs ≠ 0) :
    ofInt? i = none ↔
      let e : Int := i.natAbs.log2 - 52
      let m := roundHalfEven (scaleDown i.natAbs 1 e).1 (scaleDown i.natAbs 1 e).2
      maxExponent < (if m = 2 ^ 53 then e + 1 else e) := by
  unfold ofInt? ofInt ofRatio
  rw [if_neg hi]
  simp only [exponentFor_one hi]
  generalize roundHalfEven _ _ = m
  by_cases hm : m = 2 ^ 53
  · simp only [show Nat.pow 2 53 = 2 ^ 53 from rfl, if_pos hm]
    by_cases he : maxExponent < (i.natAbs.log2 : Int) - 52 + 1 <;> simp [he]
  · simp only [show Nat.pow 2 53 = 2 ^ 53 from rfl, if_neg hm]
    by_cases he : maxExponent < (i.natAbs.log2 : Int) - 52 <;> simp [he]

theorem ofInt?_eq_none_iff {i : Int} : ofInt? i = none ↔ bound ≤ i.natAbs := by
  by_cases hzero : i.natAbs = 0
  · have hbound : ¬ bound ≤ 0 := by decide +kernel
    simp [ofInt?, ofInt, ofRatio, hzero, zero, hbound]
  rw [ofInt?_eq_none hzero]
  simp only [maxExponent]
  rcases Nat.lt_trichotomy i.natAbs.log2 1023 with h | h | h
  · -- Even after rounding the exponent is not too great.
    have hsmall : i.natAbs < bound := Nat.lt_log2_self.trans_le (pow_le_bound h)
    split <;> omega
  · have hscale : scaleDown i.natAbs 1 ((i.natAbs.log2 : Int) - 52) = (i.natAbs, 2 ^ (970 + 1)) := by
      rw [h, show ((1023 : Nat) : Int) - 52 = ((970 + 1 : Nat) : Int) by decide]
      exact scaleDown_one _ _
    have hround : roundHalfEven i.natAbs (2 ^ (970 + 1)) = 2 ^ 53 ↔ bound ≤ i.natAbs :=
      roundHalfEven_eq_last_iff (lt_pow_mul_pow (by rw [h]))
    simp only [hscale, hround]
    split <;> omega
  · have hlarge : bound ≤ i.natAbs := (bound_le_pow h).trans (Nat.log2_self_le hzero)
    split <;> omega

end QuasiGrammar.Number.Binary64
