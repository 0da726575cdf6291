/-
# Finite doubles

The double nearest to a quotient has at most 53 bits before its last place, so it is finite if the
quotient lies below a quarter of the range (`isFinite_ofRatio`).  Integers of 64 bits lie there, and
so does a finite double over anything from four on: the powers of ten, for instance.
-/
import Dossier.Proofs.Double.Order
import Mathlib.Algebra.Order.Field.Power

namespace Dossier

namespace Double

/-- The number is neither infinite nor a NaN. -/
def IsFinite (x : Double) : Prop := x.magnitude < infinityMagnitude

instance (x : Double) : Decidable x.IsFinite := inferInstanceAs (Decidable (_ < _))

theorem isFinite_iff {x : Double} : x.IsFinite ↔ x.isNaN = false ∧ x.isInfinite = false := by
  unfold IsFinite isNaN isInfinite
  rw [decide_eq_false_iff_not, decide_eq_false_iff_not]
  omega

/-! ## 1. The double nearest to a quotient -/

/-- A quotient is compared with a multiple of a power of two, on the side where the power is
whole. -/
theorem lt_mul_shiftLeft_iff (n w d : ℕ) (e : ℤ) :
    (if 0 ≤ e then n < w * (d <<< e.toNat) else n <<< (-e).toNat < w * d) ↔
      (n : ℚ) < w * d * 2 ^ e := by
  split
  · rename_i he
    obtain ⟨k, rfl⟩ := Int.eq_ofNat_of_zero_le he
    rw [Int.toNat_natCast, Nat.shiftLeft_eq, zpow_natCast, ← Nat.cast_lt (α := ℚ), ← mul_assoc]
    push_cast
    rfl
  · rename_i he
    obtain ⟨k, hk⟩ := Int.eq_ofNat_of_zero_le (show 0 ≤ -e by omega)
    rw [show e = -(k : ℤ) by omega, neg_neg, Int.toNat_natCast, Nat.shiftLeft_eq, zpow_neg,
      zpow_natCast, ← div_eq_mul_inv, lt_div_iff₀ (by positivity), ← Nat.cast_lt (α := ℚ)]
    push_cast
    rfl

/-- No more than 53 bits stand before the last place. -/
theorem lt_lastPlace (n : ℕ) {d : ℕ} (hd : 0 < d) :
    (n : ℚ) < (2 ^ 53 : ℕ) * d * 2 ^ lastPlace n d := by
  have hn : (n : ℚ) < 2 ^ (n.log2 + 1) := by exact_mod_cast Nat.lt_log2_self
  have hdlow : (2 : ℚ) ^ d.log2 ≤ d := by exact_mod_cast Nat.log2_self_le hd.ne'
  have hdpos : (0 : ℚ) < d := by exact_mod_cast hd
  obtain ⟨e, he⟩ : ∃ e : ℤ, e = n.log2 - d.log2 - 52 := ⟨_, rfl⟩
  by_cases hshort : (n : ℚ) < exponentWeight * d * 2 ^ e
  · have hplace : e - 1 ≤ lastPlace n d := by
      unfold lastPlace
      dsimp only
      rw [← he]
      split <;> omega
    calc (n : ℚ) < exponentWeight * d * 2 ^ e := hshort
      _ = (2 ^ 53 : ℕ) * d * 2 ^ (e - 1) := by
          rw [zpow_sub_one₀ two_ne_zero, show exponentWeight = 2 ^ 52 from rfl]
          push_cast
          ring
      _ ≤ (2 ^ 53 : ℕ) * d * 2 ^ lastPlace n d := by
          gcongr
          norm_num
  · have hplace : e ≤ lastPlace n d := by
      rw [← lt_mul_shiftLeft_iff] at hshort
      have hfalse : (if 0 ≤ e then decide (n < exponentWeight * (d <<< e.toNat))
          else decide (n <<< (-e).toNat < exponentWeight * d)) = false := by
        split
        · rename_i hsign
          rw [if_pos hsign] at hshort
          exact decide_eq_false hshort
        · rename_i hsign
          rw [if_neg hsign] at hshort
          exact decide_eq_false hshort
      unfold lastPlace
      dsimp only
      rw [← he, hfalse]
      simp
    calc (n : ℚ) < 2 ^ (n.log2 + 1) := hn
      _ = (2 ^ 53 : ℕ) * 2 ^ d.log2 * 2 ^ e := by
          rw [Nat.cast_pow, Nat.cast_ofNat, ← zpow_natCast, ← zpow_natCast, ← zpow_natCast,
            ← zpow_add₀ two_ne_zero, ← zpow_add₀ two_ne_zero]
          congr 1
          push_cast
          omega
      _ ≤ (2 ^ 53 : ℕ) * d * 2 ^ lastPlace n d := by
          have hone : (1 : ℚ) ≤ 2 := one_le_two
          gcongr

theorem lastPlace_le {n d k : ℕ} (hn : n ≠ 0) (h : n < 2 ^ k * d) :
    lastPlace n d ≤ max (-1074) ((k : ℤ) - 52) := by
  have hlog : n.log2 < k + (d.log2 + 1) := by
    refine (Nat.log2_lt hn).mpr (Nat.lt_of_lt_of_le h ?_)
    rw [Nat.pow_add]
    exact Nat.mul_le_mul_left _ (le_of_lt Nat.lt_log2_self)
  unfold lastPlace
  dsimp only
  split <;> omega

/-- **A quotient below a power of two is rounded to a magnitude that is not far beyond it.** -/
theorem nearestMagnitude_le_of_lt {n d k : ℕ} (hd : 0 < d) (h : n < 2 ^ k * d) :
    nearestMagnitude n d ≤ (k + 1024) * exponentWeight := by
  by_cases hn : n = 0
  · rw [nearestMagnitude, if_pos hn]
    exact Nat.zero_le _
  · have hplace := lastPlace_le hn h
    have hbits := (lt_mul_shiftLeft_iff n (2 ^ 53) d _).mpr (lt_lastPlace n hd)
    have hlow : -1074 ≤ lastPlace n d := le_max_left _ _
    have hrounded : (if 0 ≤ lastPlace n d then roundHalfEven n (d <<< (lastPlace n d).toNat)
        else roundHalfEven (n <<< (-lastPlace n d).toNat) d) ≤ 2 ^ 53 := by
      split
      · rename_i he
        rw [if_pos he] at hbits
        exact (roundHalfEven_le _ _).trans (Nat.div_lt_of_lt_mul (Nat.mul_comm _ _ ▸ hbits))
      · rename_i he
        rw [if_neg he] at hbits
        exact (roundHalfEven_le _ _).trans (Nat.div_lt_of_lt_mul (Nat.mul_comm _ _ ▸ hbits))
    rw [nearestMagnitude, if_neg hn]
    refine (Nat.min_le_right _ _).trans ?_
    have hfield : (lastPlace n d + 1074).toNat + 2 ≤ k + 1024 := by omega
    calc _ ≤ (lastPlace n d + 1074).toNat * exponentWeight + 2 * exponentWeight :=
          Nat.add_le_add_left hrounded _
      _ = ((lastPlace n d + 1074).toNat + 2) * exponentWeight := (Nat.add_mul _ _ _).symm
      _ ≤ (k + 1024) * exponentWeight := Nat.mul_le_mul_right _ hfield

theorem isFinite_ofRatio {negative : Bool} {n d k : ℕ} (hd : 0 < d) (hk : k ≤ 1022)
    (h : n < 2 ^ k * d) : (ofRatio negative n d).IsFinite := by
  have hnearest := nearestMagnitude_le_of_lt hd h
  unfold IsFinite
  rw [ofRatio, magnitude_ofMagnitude (nearestMagnitude_lt n d)]
  unfold infinityMagnitude exponentWeight at *
  omega

/-- Integers of 64 bits are far below the largest double. -/
theorem isFinite_ofInt {n : ℤ} (h : n.natAbs < 2 ^ 64) : (ofInt n).IsFinite :=
  isFinite_ofRatio Nat.one_pos (by decide : 64 ≤ 1022) (by rwa [Nat.mul_one])

/-! ## 2. Quotients of doubles -/

theorem ratio_snd_pos (x : Double) : 0 < x.ratio.2 := by
  unfold ratio
  dsimp only
  split
  · exact Nat.one_pos
  · rw [Nat.shiftLeft_eq, Nat.one_mul]
    exact Nat.two_pow_pos _

theorem ratio_fst_lt {x : Double} (h : x.IsFinite) : x.ratio.1 < 4 * 2 ^ 1022 * x.ratio.2 := by
  have hpos : (0 : ℚ) < x.ratio.2 := by exact_mod_cast x.ratio_snd_pos
  have hsignificand : (significand x.magnitude : ℚ) < 2 ^ 53 := by
    exact_mod_cast significand_lt x.magnitude
  have hexponent : exponent x.magnitude ≤ 971 := by
    unfold IsFinite infinityMagnitude at h
    unfold exponent exponentWeight
    omega
  have hq : (x.ratio.1 : ℚ) / x.ratio.2 < 4 * 2 ^ 1022 := by
    rw [ratio_div]
    calc (significand x.magnitude : ℚ) * 2 ^ exponent x.magnitude
        < 2 ^ 53 * 2 ^ exponent x.magnitude :=
          mul_lt_mul_of_pos_right hsignificand (by positivity)
      _ ≤ 2 ^ 53 * 2 ^ (971 : ℤ) := by
          gcongr
          norm_num
      _ = 4 * 2 ^ 1022 := by
          rw [← zpow_natCast, ← zpow_natCast, show (4 : ℚ) = 2 ^ (2 : ℤ) by norm_num,
            ← zpow_add₀ two_ne_zero, ← zpow_add₀ two_ne_zero]
          rfl
  rw [div_lt_iff₀ hpos] at hq
  exact_mod_cast hq

/-- A double of at least the magnitude of four is four or more. -/
theorem four_mul_ratio_snd_le {x : Double} (h : (ofInt 4).magnitude ≤ x.magnitude) :
    4 * x.ratio.2 ≤ x.ratio.1 := by
  have hpos : (0 : ℚ) < x.ratio.2 := by exact_mod_cast x.ratio_snd_pos
  have hfield : 1025 ≤ x.magnitude / exponentWeight := by
    have hfour : (ofInt 4).magnitude = 1025 * exponentWeight := by decide +kernel
    exact (Nat.le_div_iff_mul_le (by decide)).mpr (hfour ▸ h)
  have hsignificand : (2 : ℚ) ^ 52 ≤ significand x.magnitude := by
    have hle : 2 ^ 52 ≤ significand x.magnitude := by
      rw [significand, if_neg (by omega)]
      exact Nat.le_add_left _ _
    exact_mod_cast hle
  have hexponent : -50 ≤ exponent x.magnitude := by
    unfold exponent
    omega
  have hq : 4 ≤ (x.ratio.1 : ℚ) / x.ratio.2 := by
    rw [ratio_div]
    calc (4 : ℚ) = 2 ^ 52 * 2 ^ (-50 : ℤ) := by norm_num
      _ ≤ 2 ^ 52 * 2 ^ exponent x.magnitude := by
          gcongr
          norm_num
      _ ≤ significand x.magnitude * 2 ^ exponent x.magnitude :=
          mul_le_mul_of_nonneg_right hsignificand (by positivity)
  rw [le_div_iff₀ hpos] at hq
  exact_mod_cast hq

/-- **A finite double over one from four on is finite.** -/
theorem IsFinite.div {x y : Double} (hx : x.IsFinite) (hy : (ofInt 4).magnitude ≤ y.magnitude) :
    (x.div y).IsFinite := by
  have hnumerator := ratio_fst_lt hx
  have hdivisor := four_mul_ratio_snd_le hy
  have hy1 : 0 < y.ratio.1 := Nat.lt_of_lt_of_le (by have := y.ratio_snd_pos; omega) hdivisor
  refine isFinite_ofRatio (Nat.mul_pos x.ratio_snd_pos hy1) (Nat.le_refl 1022) ?_
  refine Nat.lt_of_mul_lt_mul_left (a := 4) ?_
  generalize 2 ^ 1022 = range at hnumerator ⊢
  calc 4 * (x.ratio.1 * y.ratio.2) = x.ratio.1 * (4 * y.ratio.2) := by ring
    _ ≤ x.ratio.1 * y.ratio.1 := Nat.mul_le_mul_left _ hdivisor
    _ < 4 * range * x.ratio.2 * y.ratio.1 := Nat.mul_lt_mul_of_pos_right hnumerator hy1
    _ = 4 * (range * (x.ratio.2 * y.ratio.1)) := by ring

theorem magnitude_four_le_power {k : ℕ} (hk : k ≠ 0) :
    (ofInt 4).magnitude ≤ (ofDecimal false 1 k).magnitude := by
  have hpower : 4 ≤ 10 ^ k :=
    le_trans (by decide : 4 ≤ 10 ^ 1)
      (Nat.pow_le_pow_right (by decide) (Nat.one_le_iff_ne_zero.mpr hk))
  rw [ofDecimal, if_pos (Int.natCast_nonneg k), ofInt, ofRatio, ofRatio,
    magnitude_ofMagnitude (nearestMagnitude_lt _ _),
    magnitude_ofMagnitude (nearestMagnitude_lt _ _), Nat.one_mul, Int.toNat_natCast]
  exact nearestMagnitude_mono hpower

end Double

end Dossier
