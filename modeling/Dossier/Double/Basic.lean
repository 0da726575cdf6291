/-
# Doubles as words

A double is kept as its 64-bit word, so that what is stored comes back bit for bit and two NaNs
with different payloads stay apart.  Comparison needs no real arithmetic: for two words that are
not NaN, the order of the numbers is the order of their *ranks*, the magnitude field read as an
integer and negated when the sign bit is set.  Both zeros have rank zero.

Main statements: `compare?_eq_none_iff` (only a NaN is incomparable), `equal_iff` (equality is
comparison to `eq`), `compare?_swap` (the order read from the other side).
-/

namespace Dossier

/-- A 64-bit floating point number, as the word that represents it. -/
structure Double where
  bits : UInt64
deriving DecidableEq, Inhabited

namespace Double

/-- The weight of the sign bit, which is the first of the word. -/
def signWeight : Nat := 0x8000000000000000

/-- The weight of the last bit of the exponent: the bits after it are the fraction. -/
def exponentWeight : Nat := 0x10000000000000

/-- The word without its sign bit. -/
def magnitude (x : Double) : Nat := x.bits.toNat % signWeight

def isNegative (x : Double) : Bool := decide (signWeight ≤ x.bits.toNat)

/-- The magnitude of infinity; every larger magnitude is a NaN. -/
def infinityMagnitude : Nat := 0x7FF0000000000000

def isNaN (x : Double) : Bool := decide (infinityMagnitude < x.magnitude)

def isInfinite (x : Double) : Bool := decide (x.magnitude = infinityMagnitude)

/-- The double of a sign and a magnitude. -/
def ofMagnitude (negative : Bool) (magnitude : Nat) : Double :=
  ⟨UInt64.ofNat (magnitude + if negative then signWeight else 0)⟩

/-- The magnitude with the sign of the number: an integer that orders all words but the NaNs. -/
def rank (x : Double) : Int := if x.isNegative then -(x.magnitude : Int) else x.magnitude

/-- The order of two doubles; a NaN has none. -/
def compare? (x y : Double) : Option Ordering :=
  if x.isNaN || y.isNaN then none else some (compare x.rank y.rank)

/-- Numeric equality: a NaN equals nothing, and the two zeros are equal. -/
def equal (x y : Double) : Bool := !x.isNaN && !y.isNaN && x.rank == y.rank

/-- Whether the number is other than zero; a NaN is. -/
def isNonzero (x : Double) : Bool := x.magnitude != 0

/-! ## 1. Laws of the comparison -/

theorem compare?_eq_none_iff {x y : Double} :
    compare? x y = none ↔ x.isNaN = true ∨ y.isNaN = true := by
  unfold compare?
  cases x.isNaN <;> cases y.isNaN <;> simp

theorem equal_iff {x y : Double} : equal x y = true ↔ compare? x y = some .eq := by
  unfold equal compare?
  cases x.isNaN <;> cases y.isNaN <;> simp [Std.LawfulEqCmp.compare_eq_iff_eq]

theorem compare?_swap (x y : Double) : (compare? x y).map Ordering.swap = compare? y x := by
  unfold compare?
  cases x.isNaN <;> cases y.isNaN <;> simp [← Std.OrientedCmp.eq_swap]

theorem equal_comm (x y : Double) : equal x y = equal y x := by
  unfold equal
  cases x.isNaN <;> cases y.isNaN <;> simp [BEq.comm]

theorem equal_trans {x y z : Double} (hxy : equal x y = true) (hyz : equal y z = true) :
    equal x z = true := by
  unfold equal at *
  simp only [Bool.and_eq_true, Bool.not_eq_true', beq_iff_eq] at *
  exact ⟨⟨hxy.1.1, hyz.1.2⟩, hxy.2.trans hyz.2⟩

end Double

end Dossier
