/-
# Integers as doubles

A finite double is a significand of at most 53 bits, times a power of two (`exists_toRat?`).  So an
integer can be a double only if it has at most 53 binary digits from the first to the last that
counts (`Fits`), and the double nearest to such an integer is the integer itself.

Main statement: `toRat?_ofInt_iff`, for integers of 64 bits.  Those of 32 bits all fit, so two of
them are equal as doubles only if they are equal (`equal_ofInt_iff`).
-/
import Dossier.Double.Rounding
import Mathlib.Algebra.Order.Ring.Abs
import Mathlib.Data.Rat.Cast.Order
import Mathlib.Tactic.FieldSimp
import Mathlib.Tactic.Linarith
import Mathlib.Tactic.Ring

namespace Dossier

namespace Double

/-! ## 1. The number that a double is -/

/-- The number that a double is; infinities and NaNs are none. -/
def toRat? (x : Double) : Option ℚ :=
  if x.magnitude < infinityMagnitude then
    some ((if x.isNegative then -1 else 1) * ((x.ratio.1 : ℚ) / x.ratio.2))
  else none

/-- The bits of a magnitude that count, the hidden one included. -/
def significand (magnitude : ℕ) : ℕ :=
  if magnitude / exponentWeight = 0 then magnitude % exponentWeight
  else magnitude % exponentWeight + exponentWeight

/-- The exponent of the last of these bits. -/
def exponent (magnitude : ℕ) : ℤ := (max (magnitude / exponentWeight) 1 : ℕ) - 1075

theorem significand_lt (magnitude : ℕ) : significand magnitude < 2 ^ 53 := by
  unfold significand exponentWeight
  split <;> omega

theorem ratio_div (x : Double) :
    (x.ratio.1 : ℚ) / x.ratio.2 = significand x.magnitude * 2 ^ exponent x.magnitude := by
  change ((if 0 ≤ exponent x.magnitude
    then (significand x.magnitude <<< (exponent x.magnitude).toNat, 1)
    else (significand x.magnitude, 1 <<< (-exponent x.magnitude).toNat) : ℕ × ℕ).1 : ℚ) /
      ((if 0 ≤ exponent x.magnitude
        then (significand x.magnitude <<< (exponent x.magnitude).toNat, 1)
        else (significand x.magnitude, 1 <<< (-exponent x.magnitude).toNat) : ℕ × ℕ).2 : ℚ) = _
  generalize exponent x.magnitude = e
  split
  · rename_i he
    obtain ⟨k, rfl⟩ := Int.eq_ofNat_of_zero_le he
    simp [Nat.shiftLeft_eq]
  · rename_i he
    obtain ⟨k, hk⟩ := Int.eq_ofNat_of_zero_le (show 0 ≤ -e by omega)
    rw [show e = -(k : ℤ) by omega]
    simp [Nat.shiftLeft_eq, div_eq_mul_inv]

/-- **A finite double is an integer of at most 53 bits, times a power of two.** -/
theorem exists_toRat? {x : Double} {q : ℚ} (h : x.toRat? = some q) :
    ∃ (m : ℤ) (e : ℤ), q = m * 2 ^ e ∧ m.natAbs < 2 ^ 53 := by
  unfold toRat? at h
  split at h
  · cases h
    rw [ratio_div]
    have hlt := significand_lt x.magnitude
    cases x.isNegative with
    | true => exact ⟨-significand x.magnitude, exponent x.magnitude, by simp, by simpa using hlt⟩
    | false => exact ⟨significand x.magnitude, exponent x.magnitude, by simp, by simpa using hlt⟩
  · cases h

/-- The integer has at most 53 binary digits from its first to the last that is not zero. -/
def Fits (n : ℤ) : Prop := ∃ (m : ℤ) (k : ℕ), n = m * 2 ^ k ∧ m.natAbs < 2 ^ 53

theorem fits_of_natAbs_lt {n : ℤ} (h : n.natAbs < 2 ^ 53) : Fits n := ⟨n, 0, by simp, h⟩

/-- An integer that is a double fits. -/
theorem fits_of_toRat? {x : Double} {n : ℤ} (h : x.toRat? = some (n : ℚ)) : Fits n := by
  obtain ⟨m, e, hn, hm⟩ := exists_toRat? h
  by_cases he : 0 ≤ e
  · obtain ⟨k, rfl⟩ := Int.eq_ofNat_of_zero_le he
    exact ⟨m, k, by exact_mod_cast hn, hm⟩
  · -- The power is below one, so the integer is not larger than the significand.
    obtain ⟨k, hk⟩ := Int.eq_ofNat_of_zero_le (show 0 ≤ -e by omega)
    rw [show e = -(k : ℤ) by omega, zpow_neg, zpow_natCast, ← div_eq_mul_inv,
      eq_div_iff (by positivity)] at hn
    have hmul : n * 2 ^ k = m := by exact_mod_cast hn
    have habs : n.natAbs * 2 ^ k = m.natAbs := by
      rw [← hmul, Int.natAbs_mul, Int.natAbs_pow]
      rfl
    refine fits_of_natAbs_lt (Nat.lt_of_le_of_lt ?_ hm)
    rw [← habs]
    exact Nat.le_mul_of_pos_right _ (Nat.two_pow_pos k)

/-! ## 2. The double nearest to an integer -/

theorem lastPlace_one {a : ℕ} (ha : a ≠ 0) : lastPlace a 1 = (a.log2 : ℤ) - 52 := by
  have hlow := Nat.log2_self_le ha
  have hone : Nat.log2 1 = 0 := by decide
  unfold lastPlace
  rw [hone]
  dsimp only
  have hshort : (if (0 : ℤ) ≤ (a.log2 : ℤ) - ((0 : ℕ) : ℤ) - 52
      then decide (a < exponentWeight * (1 <<< ((a.log2 : ℤ) - ((0 : ℕ) : ℤ) - 52).toNat))
      else decide (a <<< (-((a.log2 : ℤ) - ((0 : ℕ) : ℤ) - 52)).toNat < exponentWeight * 1)) =
        false := by
    split
    · rename_i he
      have hpow : exponentWeight * 2 ^ ((a.log2 : ℤ) - ((0 : ℕ) : ℤ) - 52).toNat = 2 ^ a.log2 := by
        rw [show exponentWeight = 2 ^ 52 from rfl, ← Nat.pow_add]
        congr 1
        omega
      rw [Nat.shiftLeft_eq, Nat.one_mul, hpow]
      exact decide_eq_false (Nat.not_lt.mpr hlow)
    · rename_i he
      have hpow : exponentWeight =
          2 ^ a.log2 * 2 ^ (-((a.log2 : ℤ) - ((0 : ℕ) : ℤ) - 52)).toNat := by
        rw [show exponentWeight = 2 ^ 52 from rfl, ← Nat.pow_add]
        congr 1
        omega
      rw [Nat.shiftLeft_eq, Nat.mul_one, hpow]
      exact decide_eq_false (Nat.not_lt.mpr (Nat.mul_le_mul_right _ hlow))
  rw [hshort]
  simp only [Bool.false_eq_true, if_false]
  omega

/-- The first 53 binary digits of an integer, rounded if there are more. -/
def leadingBits (a : ℕ) : ℕ :=
  if 52 ≤ a.log2 then roundHalfEven a (2 ^ (a.log2 - 52)) else a * 2 ^ (52 - a.log2)

theorem le_leadingBits {a : ℕ} (ha : a ≠ 0) : 2 ^ 52 ≤ leadingBits a := by
  have hlow := Nat.log2_self_le ha
  unfold leadingBits
  split
  · rename_i hlarge
    refine le_trans ?_ (le_roundHalfEven _ _)
    rw [Nat.le_div_iff_mul_le (Nat.two_pow_pos _), ← Nat.pow_add]
    simpa [show 52 + (a.log2 - 52) = a.log2 by omega] using hlow
  · rename_i hsmall
    calc 2 ^ 52 = 2 ^ a.log2 * 2 ^ (52 - a.log2) := by
          rw [← Nat.pow_add]
          congr 1
          omega
      _ ≤ a * 2 ^ (52 - a.log2) := Nat.mul_le_mul_right _ hlow

theorem leadingBits_le (a : ℕ) : leadingBits a ≤ 2 ^ 53 := by
  have hhigh := Nat.lt_log2_self (n := a)
  unfold leadingBits
  split
  · rename_i hlarge
    refine le_trans (roundHalfEven_le _ _) ?_
    have hlt : a / 2 ^ (a.log2 - 52) < 2 ^ 53 := by
      rw [Nat.div_lt_iff_lt_mul (Nat.two_pow_pos _), ← Nat.pow_add]
      simpa [show 53 + (a.log2 - 52) = a.log2 + 1 by omega] using hhigh
    exact hlt
  · rename_i hsmall
    calc a * 2 ^ (52 - a.log2) ≤ 2 ^ (a.log2 + 1) * 2 ^ (52 - a.log2) :=
          Nat.mul_le_mul_right _ (le_of_lt hhigh)
      _ = 2 ^ 53 := by
          rw [← Nat.pow_add]
          congr 1
          omega

/-- The nearest magnitude is the exponent, and the leading bits on top of it. -/
theorem nearestMagnitude_one {a : ℕ} (ha : a ≠ 0) :
    nearestMagnitude a 1 =
      min infinityMagnitude ((a.log2 + 1022) * exponentWeight + leadingBits a) := by
  have hexponent : ((a.log2 : ℤ) - 52 + 1074).toNat = a.log2 + 1022 := by omega
  simp only [nearestMagnitude, if_neg ha, lastPlace_one ha, hexponent, leadingBits]
  congr 2
  by_cases hlarge : 52 ≤ a.log2
  · rw [if_pos (by omega), if_pos hlarge, Nat.shiftLeft_eq, Nat.one_mul]
    congr 2
    omega
  · rw [if_neg (by omega), if_neg hlarge, Nat.shiftLeft_eq,
      roundHalfEven_of_dvd Nat.one_pos (Nat.mod_one _), Nat.div_one]
    congr 2
    omega

/-- A number that fits is a multiple of the place of its 53rd binary digit. -/
theorem dvd_of_fits {a : ℕ} (h : Fits a) (ha : a ≠ 0) (hlarge : 52 ≤ a.log2) :
    2 ^ (a.log2 - 52) ∣ a := by
  obtain ⟨m, k, hmul, hm⟩ := h
  have habs : a = m.natAbs * 2 ^ k := by
    have := congrArg Int.natAbs hmul
    rwa [Int.natAbs_natCast, Int.natAbs_mul, Int.natAbs_pow] at this
  rw [habs]
  refine (Nat.pow_dvd_pow 2 ?_).trans (Nat.dvd_mul_left _ _)
  rw [← habs]
  by_contra hk
  have hlow := Nat.log2_self_le ha
  have hlt : a < 2 ^ 53 * 2 ^ k := by
    conv_lhs => rw [habs]
    exact Nat.mul_lt_mul_of_pos_right hm (Nat.two_pow_pos k)
  rw [← Nat.pow_add] at hlt
  have := (Nat.pow_lt_pow_iff_right (by decide : 1 < 2)).mp (Nat.lt_of_le_of_lt hlow hlt)
  omega

/-- A number that fits has no more than its leading bits. -/
theorem leadingBits_of_fits {a : ℕ} (h : Fits a) (ha : a ≠ 0) :
    leadingBits a < 2 ^ 53 ∧ (a : ℚ) = leadingBits a * 2 ^ ((a.log2 : ℤ) - 52) := by
  have hhigh := Nat.lt_log2_self (n := a)
  unfold leadingBits
  by_cases hlarge : 52 ≤ a.log2
  · obtain ⟨s, hs⟩ := dvd_of_fits h ha hlarge
    have hpos := Nat.two_pow_pos (a.log2 - 52)
    have hround : roundHalfEven a (2 ^ (a.log2 - 52)) = s := by
      rw [roundHalfEven_of_dvd hpos (Nat.mod_eq_zero_of_dvd ⟨s, hs⟩)]
      exact Nat.div_eq_of_eq_mul_right hpos hs
    rw [if_pos hlarge, hround]
    constructor
    · refine Nat.lt_of_mul_lt_mul_left (a := 2 ^ (a.log2 - 52)) ?_
      rwa [← hs, ← Nat.pow_add, show a.log2 - 52 + 53 = a.log2 + 1 by omega]
    · rw [show ((a.log2 : ℤ) - 52) = ((a.log2 - 52 : ℕ) : ℤ) by omega, zpow_natCast, mul_comm]
      exact_mod_cast hs
  · obtain ⟨k, hk⟩ := Nat.exists_eq_add_of_le (Nat.le_of_not_le hlarge)
    rw [if_neg hlarge, show 52 - a.log2 = k by omega]
    constructor
    · rw [show 53 = a.log2 + 1 + k by omega, Nat.pow_add]
      exact Nat.mul_lt_mul_of_pos_right hhigh (Nat.two_pow_pos k)
    · rw [show ((a.log2 : ℤ) - 52) = -(k : ℤ) by omega, zpow_neg, zpow_natCast]
      push_cast
      field_simp

/-- The nearest magnitude to a number that fits is made of the number's first 53 binary digits. -/
theorem exists_nearestMagnitude {a : ℕ} (h : Fits a) (ha : a ≠ 0) (hsmall : a < 2 ^ 64) :
    ∃ s : ℕ, 2 ^ 52 ≤ s ∧ s < 2 ^ 53 ∧ (a : ℚ) = s * 2 ^ ((a.log2 : ℤ) - 52) ∧
      nearestMagnitude a 1 = (a.log2 + 1022) * exponentWeight + s := by
  obtain ⟨hlt, hvalue⟩ := leadingBits_of_fits h ha
  have hlog : a.log2 < 64 := (Nat.log2_lt ha).mpr hsmall
  refine ⟨leadingBits a, le_leadingBits ha, hlt, hvalue, ?_⟩
  rw [nearestMagnitude_one ha, Nat.min_eq_right]
  unfold infinityMagnitude exponentWeight
  omega

theorem magnitude_ofMagnitude {negative : Bool} {magnitude : ℕ} (h : magnitude < signWeight) :
    (ofMagnitude negative magnitude).magnitude = magnitude := by
  unfold ofMagnitude Double.magnitude
  rw [UInt64.toNat_ofNat']
  unfold signWeight at h ⊢
  cases negative <;> simp <;> omega

theorem isNegative_ofMagnitude {negative : Bool} {magnitude : ℕ} (h : magnitude < signWeight) :
    (ofMagnitude negative magnitude).isNegative = negative := by
  unfold ofMagnitude isNegative
  rw [UInt64.toNat_ofNat']
  unfold signWeight at h ⊢
  cases negative <;> simp <;> omega

/-- A double of the normal range, from the parts of its magnitude. -/
theorem toRat?_ofMagnitude {negative : Bool} {field s : ℕ} (hlow : 2 ^ 52 ≤ s) (hhigh : s < 2 ^ 53)
    (hfield : field < 2046) :
    (ofMagnitude negative (field * exponentWeight + s)).toRat? =
      some ((if negative then -1 else 1) * ((s : ℚ) * 2 ^ ((field : ℤ) - 1074))) := by
  have hfinite : field * exponentWeight + s < infinityMagnitude := by
    unfold exponentWeight infinityMagnitude
    omega
  have hword : field * exponentWeight + s < signWeight :=
    Nat.lt_trans hfinite (by decide)
  have hdiv : (field * exponentWeight + s) / exponentWeight = field + 1 := by
    unfold exponentWeight
    omega
  have hmod : (field * exponentWeight + s) % exponentWeight + exponentWeight = s := by
    unfold exponentWeight
    omega
  rw [toRat?, ratio_div, isNegative_ofMagnitude hword, magnitude_ofMagnitude hword,
    if_pos hfinite, significand, exponent, hdiv, hmod, if_neg (Nat.succ_ne_zero field),
    show (((max (field + 1) 1 : ℕ) : ℤ) - 1075) = (field : ℤ) - 1074 by omega]

/-- **The double nearest to an integer of 64 bits is the integer itself, if and only if the integer
fits.** -/
theorem toRat?_ofInt_iff {n : ℤ} (hsmall : n.natAbs < 2 ^ 64) :
    (ofInt n).toRat? = some (n : ℚ) ↔ Fits n := by
  refine ⟨fits_of_toRat?, fun h => ?_⟩
  by_cases hn : n = 0
  · subst hn
    decide +kernel
  · have habs : Fits n.natAbs := by
      obtain ⟨m, k, hmul, hm⟩ := h
      refine ⟨m.natAbs, k, ?_, hm⟩
      rw [hmul, Int.natAbs_mul, Int.natAbs_pow]
      rfl
    obtain ⟨s, hlow, hhigh, hvalue, hmagnitude⟩ :=
      exists_nearestMagnitude habs (Int.natAbs_ne_zero.mpr hn) hsmall
    have hlog : n.natAbs.log2 < 64 := (Nat.log2_lt (Int.natAbs_ne_zero.mpr hn)).mpr hsmall
    rw [ofInt, ofRatio, hmagnitude, toRat?_ofMagnitude hlow hhigh (by omega)]
    rw [show (((n.natAbs.log2 + 1022 : ℕ) : ℤ) - 1074) = (n.natAbs.log2 : ℤ) - 52 by omega,
      ← hvalue]
    congr 1
    rcases lt_or_gt_of_ne hn with hneg | hpos
    · rw [decide_eq_true hneg, if_pos rfl, Nat.cast_natAbs, abs_of_neg hneg]
      push_cast
      ring
    · rw [decide_eq_false hpos.not_gt, if_neg Bool.false_ne_true, Nat.cast_natAbs,
        abs_of_pos hpos, one_mul]

/-! ## 3. Integers that are equal as doubles -/

theorem nearestMagnitude_le (n d : ℕ) : nearestMagnitude n d ≤ infinityMagnitude := by
  unfold nearestMagnitude
  split
  · exact Nat.zero_le _
  · exact Nat.min_le_left _ _

theorem nearestMagnitude_lt (n d : ℕ) : nearestMagnitude n d < signWeight :=
  Nat.lt_of_le_of_lt (nearestMagnitude_le n d) (by decide)

theorem isNaN_ofRatio (negative : Bool) (n d : ℕ) : (ofRatio negative n d).isNaN = false := by
  rw [isNaN, ofRatio, magnitude_ofMagnitude (nearestMagnitude_lt n d)]
  exact decide_eq_false (Nat.not_lt.mpr (nearestMagnitude_le n d))

theorem equal_self {x : Double} (h : x.isNaN = false) : x.equal x = true := by
  simp [equal, h]

/-- Equal doubles are the same number. -/
theorem toRat?_eq_of_equal {x y : Double} (h : x.equal y = true) : x.toRat? = y.toRat? := by
  unfold equal at h
  simp only [Bool.and_eq_true, beq_iff_eq] at h
  have hrank := h.2
  unfold rank at hrank
  have hmagnitude : x.magnitude = y.magnitude := by
    split at hrank <;> split at hrank <;> omega
  unfold toRat?
  rw [ratio_div, ratio_div, hmagnitude]
  by_cases hsign : x.isNegative = y.isNegative
  · rw [hsign]
  · -- Only the two zeros are equal and have different signs.
    have hzero : y.magnitude = 0 := by
      cases hx : x.isNegative <;> cases hy : y.isNegative <;> simp_all
    rw [hzero]
    simp [significand]

/-- **Integers that a double can hold are equal as doubles only if they are equal.** -/
theorem equal_ofInt_iff {m n : ℤ} (hm : m.natAbs < 2 ^ 53) (hn : n.natAbs < 2 ^ 53) :
    (ofInt m).equal (ofInt n) = true ↔ m = n := by
  refine ⟨fun h => ?_, fun h => h ▸ equal_self (isNaN_ofRatio _ _ _)⟩
  have hrat (k : ℤ) (hk : k.natAbs < 2 ^ 53) : (ofInt k).toRat? = some (k : ℚ) :=
    (toRat?_ofInt_iff (Nat.lt_trans hk (by decide))).mpr (fits_of_natAbs_lt hk)
  have heq := toRat?_eq_of_equal h
  rw [hrat m hm, hrat n hn] at heq
  exact_mod_cast Option.some.inj heq

end Double

end Dossier
