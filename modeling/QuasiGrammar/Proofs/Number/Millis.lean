import Mathlib.Algebra.Order.Field.Rat
import Mathlib.Tactic.Linarith
import Mathlib.Tactic.Ring
import QuasiGrammar.Number.Binary64

/-
  QuasiGrammar.Proofs.Number.Millis
  ─────────────────────────────────
  **Seconds in milliseconds.**

  A number of the format stands for a rational number, unless it is an infinity
  or "not a number".  As a number of seconds it is of use if it stands for one
  that is not negative, and then it has a nearest whole number of milliseconds,
  which is not negative either.
-/

namespace QuasiGrammar.Number

/-! ## §1. Rounding to the nearest. -/

/-- Rounding changes a quotient by one half at most. -/
theorem roundHalfEven_bounds (n : Nat) {d : Nat} (hd : 0 < d) :
    2 * (roundHalfEven n d * d) ≤ 2 * n + d ∧ 2 * n ≤ 2 * (roundHalfEven n d * d) + d := by
  have hdiv : d * (n / d) + n % d = n := Nat.div_add_mod n d
  have hmod : n % d < d := Nat.mod_lt _ hd
  simp only [roundHalfEven, gt_iff_lt, Bool.or_eq_true, Bool.and_eq_true, decide_eq_true_eq,
    beq_iff_eq]
  generalize n / d = q at *
  generalize n % d = r at *
  have hnext : (q + 1) * d = d * q + d := by ring
  have hsame : q * d = d * q := Nat.mul_comm q d
  split <;> omega

theorem abs_roundHalfEven_sub_le (n : Nat) {d : Nat} (hd : 0 < d) :
    |(roundHalfEven n d : ℚ) - n / d| ≤ 1 / 2 := by
  obtain ⟨habove, hbelow⟩ := roundHalfEven_bounds n hd
  have hpos : (0 : ℚ) < d := Nat.cast_pos.2 hd
  have habove : 2 * ((roundHalfEven n d : ℚ) * d) ≤ 2 * n + d := by exact_mod_cast habove
  have hbelow : 2 * (n : ℚ) ≤ 2 * ((roundHalfEven n d : ℚ) * d) + d := by exact_mod_cast hbelow
  have hquot : (n : ℚ) = n / d * d := (div_mul_cancel₀ _ hpos.ne').symm
  rw [hquot] at habove hbelow
  rw [abs_le]
  constructor
  · by_contra hlt
    nlinarith
  · by_contra hlt
    nlinarith

namespace Binary64

variable {x : Binary64} {q : ℚ}

/-! ## §2. The rational number of a number. -/

/-- The number as a rational number; the infinities and "not a number" stand for none. -/
def toRat? : Binary64 → Option ℚ
  | .finite s m e => some ((if s then -1 else 1) * (m * 2 ^ e))
  | _ => none

/-- The number can be a delay: it stands for a number that is not negative. -/
def IsUsable (x : Binary64) : Prop := ∃ q, x.toRat? = some q ∧ 0 ≤ q

theorem isUsable_iff : x.IsUsable ↔ x.isFinite = true ∧ x.isNegative = false := by
  unfold IsUsable
  cases x with
  | finite s m e =>
    have hscale : (0 : ℚ) < 2 ^ e := zpow_pos two_pos e
    simp only [toRat?, Option.some.injEq, exists_eq_left', isFinite, isNegative, true_and]
    cases s with
    | false =>
      refine iff_of_true ?_ rfl
      simp only [Bool.false_eq_true, if_false, one_mul]
      positivity
    | true =>
      simp only [if_true, Bool.true_and, bne_eq_false_iff_eq]
      constructor
      · intro hnonneg
        by_contra hm
        have hpos : (0 : ℚ) < m := Nat.cast_pos.2 (Nat.pos_of_ne_zero hm)
        have := mul_pos hpos hscale
        linarith
      · rintro rfl
        simp
  | infinite s => simp [toRat?, isFinite]
  | nan => simp [toRat?, isFinite]

/-! ## §3. Milliseconds. -/

theorem scaleDown_den_pos (n : Nat) {d : Nat} (hd : 0 < d) (e : Int) : 0 < (scaleDown n d e).2 := by
  unfold scaleDown
  split
  · exact Nat.mul_pos hd (Nat.two_pow_pos _)
  · exact hd

/-- Scaling divides by a power of two. -/
theorem scaleDown_div (n d : Nat) (e : Int) :
    ((scaleDown n d e).1 : ℚ) / (scaleDown n d e).2 = n / d / 2 ^ e := by
  unfold scaleDown
  by_cases he : e ≥ 0
  · obtain ⟨k, rfl⟩ := Int.eq_ofNat_of_zero_le he
    rw [if_pos he]
    show (n : ℚ) / ((d * 2 ^ k : Nat) : ℚ) = _
    push_cast
    rw [zpow_natCast, div_div]
  · obtain ⟨k, rfl⟩ := Int.exists_eq_neg_ofNat (Int.le_of_lt (Int.not_le.1 he))
    rw [if_neg he]
    have hk : (-(-(k : Int))).toNat = k := by omega
    show ((n * 2 ^ (-(-(k : Int))).toNat : Nat) : ℚ) / d = _
    rw [hk]
    push_cast
    rw [zpow_neg, zpow_natCast, div_inv_eq_mul]
    ring

/-- **The milliseconds of a number of seconds are those that are nearest to it.** -/
theorem exists_toMillis? (hx : x.toRat? = some q) :
    ∃ ms, x.toMillis? = some ms ∧ |(ms : ℚ) - 1000 * q| ≤ 1 / 2 := by
  cases x with
  | infinite s => cases hx
  | nan => cases hx
  | finite s m e =>
    have hnear := abs_roundHalfEven_sub_le (scaleDown (m * 1000) 1 (-e)).1
      (scaleDown_den_pos (m * 1000) one_pos (-e))
    rw [scaleDown_div, zpow_neg, div_inv_eq_mul, Nat.cast_one, div_one] at hnear
    have hmillis : (finite s m e).toMillis? =
        some (if s then -((roundHalfEven (scaleDown (m * 1000) 1 (-e)).1
          (scaleDown (m * 1000) 1 (-e)).2 : Nat) : Int)
        else (roundHalfEven (scaleDown (m * 1000) 1 (-e)).1 (scaleDown (m * 1000) 1 (-e)).2 : Nat)) :=
      rfl
    refine ⟨_, hmillis, ?_⟩
    generalize roundHalfEven _ _ = r at hnear ⊢
    have hq : (if s then -1 else 1) * ((m : ℚ) * 2 ^ e) = q := Option.some.inj hx
    rw [← hq]
    -- The sign is that of the number, and does not matter to the distance.
    cases s with
    | false =>
      have hdist : ((r : Int) : ℚ) - 1000 * (1 * (m * 2 ^ e)) = r - (m * 1000 : Nat) * 2 ^ e := by
        push_cast
        ring
      show |((r : Int) : ℚ) - 1000 * (1 * (m * 2 ^ e))| ≤ 1 / 2
      rw [hdist]
      exact hnear
    | true =>
      have hdist : ((-(r : Int) : Int) : ℚ) - 1000 * (-1 * (m * 2 ^ e)) =
          -(r - (m * 1000 : Nat) * 2 ^ e) := by
        push_cast
        ring
      show |((-(r : Int) : Int) : ℚ) - 1000 * (-1 * (m * 2 ^ e))| ≤ 1 / 2
      rw [hdist, abs_neg]
      exact hnear

/-- A number that can be a delay is one, in milliseconds. -/
theorem IsUsable.exists_toMillis? (h : x.IsUsable) :
    ∃ (q : ℚ) (ms : Nat), x.toRat? = some q ∧ 0 ≤ q ∧ |(ms : ℚ) - 1000 * q| ≤ 1 / 2 ∧
      x.toMillis? = some ↑ms := by
  obtain ⟨q, hq, hnonneg⟩ := h
  obtain ⟨ms, hms, hnear⟩ := Binary64.exists_toMillis? hq
  have hpos : 0 ≤ ms := by
    have hlow := (abs_le.1 hnear).1
    have : (-1 : ℚ) < ms := by linarith
    have : (-1 : Int) < ms := by exact_mod_cast this
    omega
  obtain ⟨k, rfl⟩ := Int.eq_ofNat_of_zero_le hpos
  exact ⟨q, k, hq, hnonneg, hnear, hms⟩

theorem isNegative_ofRatio (n d : Nat) : (ofRatio false n d).isNegative = false := by
  have hparts : ∀ p : Nat × Int, (if p.2 > maxExponent then infinite false
      else finite false p.1 p.2).isNegative = false := by
    intro p
    split <;> rfl
  unfold ofRatio
  split
  · rfl
  · exact hparts _

/-- An integer that is not negative can be a delay, if it is not too great. -/
theorem isUsable_ofInt? {i : Int} (hi : 0 ≤ i) (hx : ofInt? i = some x) : x.IsUsable := by
  have hsign : (ofInt i).isNegative = false := by
    unfold ofInt
    rw [decide_eq_false (Int.not_lt.2 hi)]
    exact isNegative_ofRatio _ _
  unfold ofInt? at hx
  rw [isUsable_iff]
  cases hofInt : ofInt i with
  | finite s m e =>
    rw [hofInt] at hx hsign
    cases hx
    exact ⟨rfl, hsign⟩
  | infinite s =>
    rw [hofInt] at hx
    cases hx
  | nan =>
    rw [hofInt] at hx
    cases hx

end Binary64

end QuasiGrammar.Number
