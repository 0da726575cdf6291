/-
# Rounding keeps the order

The double nearest to an integer does not go down when the integer goes up.  It may stay where it
is, since neighbours beyond 53 bits round to one double, so the order is kept but not strictly.

Numbers as queries see them have an order that is exact among integers and that of doubles as soon
as one is a double.  The two meet: `Number.compare?_eq_lt_iff` says that a number is below another
if its rank is, or if both are integers and the one is below the other.  From this the mixed order
is transitive (`Number.compare?_lt_trans`), which equality is not.

Main statements: `Double.rank_ofInt_le`, `Number.compare?_lt_trans`.
-/
import Dossier.Proofs.Double.Integers
import Dossier.Query.Value

namespace Dossier

/-- A larger number rounds to no smaller quotient. -/
theorem roundHalfEven_mono {m n : ℕ} (h : m ≤ n) (d : ℕ) :
    roundHalfEven m d ≤ roundHalfEven n d := by
  have hquot : m / d ≤ n / d := Nat.div_le_div_right h
  rcases Nat.lt_or_eq_of_le hquot with hlt | heq
  · calc roundHalfEven m d ≤ m / d + 1 := roundHalfEven_le m d
      _ ≤ n / d := hlt
      _ ≤ roundHalfEven n d := le_roundHalfEven n d
  · -- The quotients are the same, so the remainders are in the order of the numbers.
    have hm := Nat.div_add_mod m d
    have hn := Nat.div_add_mod n d
    rw [heq] at hm
    have hrem : m % d ≤ n % d := by omega
    simp only [roundHalfEven, heq]
    split <;> split <;> (try split) <;> (try split) <;> omega

namespace Double

/-! ## 1. Magnitudes -/

theorem leadingBits_mono {a b : ℕ} (h : a ≤ b) (hlog : a.log2 = b.log2) :
    leadingBits a ≤ leadingBits b := by
  unfold leadingBits
  rw [hlog]
  split
  · exact roundHalfEven_mono h _
  · exact Nat.mul_le_mul_right _ h

/-- A carry out of the leading bits goes no further than to the next exponent. -/
theorem nearestMagnitude_mono {a b : ℕ} (h : a ≤ b) :
    nearestMagnitude a 1 ≤ nearestMagnitude b 1 := by
  by_cases ha : a = 0
  · subst ha
    exact Nat.zero_le _
  · have hb : b ≠ 0 := by omega
    have hlog : a.log2 ≤ b.log2 := (Nat.le_log2 hb).mpr (le_trans (Nat.log2_self_le ha) h)
    rw [nearestMagnitude_one ha, nearestMagnitude_one hb]
    refine min_le_min_left _ ?_
    rcases Nat.lt_or_eq_of_le hlog with hlt | heq
    · have hcarry := leadingBits_le a
      have hbits := le_leadingBits hb
      unfold exponentWeight
      omega
    · have hbits := leadingBits_mono h heq
      rw [heq]
      omega

/-! ## 2. Ranks -/

theorem rank_ofMagnitude {negative : Bool} {magnitude : ℕ} (h : magnitude < signWeight) :
    (ofMagnitude negative magnitude).rank =
      if negative then -(magnitude : ℤ) else (magnitude : ℤ) := by
  rw [rank, isNegative_ofMagnitude h, magnitude_ofMagnitude h]

theorem rank_ofInt (n : ℤ) :
    (ofInt n).rank =
      if n < 0 then -(nearestMagnitude n.natAbs 1 : ℤ) else (nearestMagnitude n.natAbs 1 : ℤ) := by
  rw [ofInt, ofRatio, rank_ofMagnitude (nearestMagnitude_lt _ _)]
  simp

/-- **Conversion from integers keeps the order.** -/
theorem rank_ofInt_le {m n : ℤ} (h : m ≤ n) : (ofInt m).rank ≤ (ofInt n).rank := by
  rw [rank_ofInt, rank_ofInt]
  split
  · rename_i hm
    split
    · have hmono : nearestMagnitude n.natAbs 1 ≤ nearestMagnitude m.natAbs 1 :=
        nearestMagnitude_mono (by omega)
      omega
    · omega
  · have hmono : nearestMagnitude m.natAbs 1 ≤ nearestMagnitude n.natAbs 1 :=
      nearestMagnitude_mono (by omega)
    rw [if_neg (by omega)]
    omega

end Double

/-! ## 3. Numbers of both kinds -/

namespace Number

variable {m n k : Number}

/-- Whether the number is a double that is none. -/
def isNaN : Number → Bool
  | .int _ => false
  | .double x => x.isNaN

/-- The rank of the number as a double. -/
def rank (n : Number) : ℤ := n.toDouble.rank

theorem isNaN_toDouble (n : Number) : n.toDouble.isNaN = n.isNaN := by
  cases n with
  | int i => exact Double.isNaN_ofRatio _ _ _
  | double x => rfl

/-- The order of numbers that are not both integers is that of their ranks. -/
theorem compare?_of_ranks (h : ∀ i j, m = .int i → n ≠ .int j) :
    m.compare? n = if m.isNaN || n.isNaN then none else some (compare m.rank n.rank) := by
  have hdoubles : m.compare? n = m.toDouble.compare? n.toDouble := by
    cases m with
    | double x => cases n <;> rfl
    | int i =>
      cases n with
      | double y => rfl
      | int j => exact absurd rfl (h i j rfl)
  rw [hdoubles, Double.compare?, isNaN_toDouble, isNaN_toDouble]
  rfl

/-- Only a NaN is incomparable. -/
theorem compare?_isSome_iff : (m.compare? n).isSome = true ↔ m.isNaN = false ∧ n.isNaN = false := by
  by_cases h : ∃ i j, m = .int i ∧ n = .int j
  · obtain ⟨i, j, rfl, rfl⟩ := h
    simp [compare?, isNaN]
  · rw [compare?_of_ranks fun i j hm hn => h ⟨i, j, hm, hn⟩]
    cases m.isNaN <;> cases n.isNaN <;> simp

/-- **One number is below another if its rank is, or if both are integers and the one is below the
other.**  The integers may have the same rank. -/
theorem compare?_eq_lt_iff :
    m.compare? n = some .lt ↔ m.isNaN = false ∧ n.isNaN = false ∧
      (m.rank < n.rank ∨ ∃ i j, m = .int i ∧ n = .int j ∧ i < j) := by
  by_cases h : ∃ i j, m = .int i ∧ n = .int j
  · obtain ⟨i, j, rfl, rfl⟩ := h
    simp only [compare?, Option.some.injEq, Int.compare_eq_lt]
    constructor
    · intro hlt
      exact ⟨rfl, rfl, .inr ⟨i, j, rfl, rfl, hlt⟩⟩
    · rintro ⟨-, -, hlt | ⟨_, _, ⟨⟩, ⟨⟩, hlt⟩⟩
      · by_contra hle
        exact absurd (Double.rank_ofInt_le (not_lt.mp hle)) (not_le.mpr hlt)
      · exact hlt
  · have hnone : ¬ ∃ i j, m = .int i ∧ n = .int j ∧ i < j := by
      rintro ⟨i, j, hm, hn, -⟩
      exact h ⟨i, j, hm, hn⟩
    rw [compare?_of_ranks fun i j hm hn => h ⟨i, j, hm, hn⟩, or_iff_left hnone]
    cases m.isNaN <;> cases n.isNaN <;> simp [Int.compare_eq_lt]

theorem compare?_swap (m n : Number) : (m.compare? n).map Ordering.swap = n.compare? m := by
  cases m with
  | double x => cases n <;> exact Double.compare?_swap _ _
  | int i =>
    cases n with
    | double y => exact Double.compare?_swap _ _
    | int j => exact congrArg some Std.OrientedCmp.eq_swap.symm

/-- Integers rank as they are ordered, if not strictly. -/
theorem rank_le_of_int {i j : ℤ} (h : i < j) : rank (.int i) ≤ rank (.int j) :=
  Double.rank_ofInt_le (le_of_lt h)

/-- **The order of mixed numbers is transitive.**  A step between two integers may leave the rank
where it is, but then a step to or from a double moves it. -/
theorem compare?_lt_trans (hmn : m.compare? n = some .lt) (hnk : n.compare? k = some .lt) :
    m.compare? k = some .lt := by
  rw [compare?_eq_lt_iff] at *
  obtain ⟨hm, -, hmn⟩ := hmn
  obtain ⟨-, hk, hnk⟩ := hnk
  refine ⟨hm, hk, ?_⟩
  rcases hmn with hmn | ⟨i, j, rfl, rfl, hij⟩ <;> rcases hnk with hnk | ⟨j', l, hj, rfl, hjl⟩
  · exact .inl (hmn.trans hnk)
  · subst hj
    exact .inl (hmn.trans_le (rank_le_of_int hjl))
  · exact .inl ((rank_le_of_int hij).trans_lt hnk)
  · cases hj
    exact .inr ⟨i, l, rfl, rfl, hij.trans hjl⟩

end Number

end Dossier
