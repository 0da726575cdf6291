/-
# Rounding to the nearest double

`nearestMagnitude n d` is the magnitude of the double nearest to `n / d`, a tie going to the even
neighbour.  The quotient is brought to 53 bits by choosing the exponent of its last place, never
below that of the smallest subnormal, and the exponent field is then *added* to the rounded
significand: a carry out of the significand moves into the exponent by itself.

Main statements: `roundHalfEven_le` and `le_roundHalfEven` bound the rounding by the quotient and
its successor, and `roundHalfEven_of_dvd` says that an exact quotient is kept.
-/
import Dossier.Double.Basic

namespace Dossier

/-- The integer nearest to `n / d`, a half going to the even neighbour. -/
def roundHalfEven (n d : Nat) : Nat :=
  let q := n / d
  let r := n % d
  if 2 * r < d then q else if d < 2 * r then q + 1 else q + q % 2

theorem roundHalfEven_le (n d : Nat) : roundHalfEven n d ≤ n / d + 1 := by
  unfold roundHalfEven
  dsimp only
  split
  · omega
  · split <;> omega

theorem le_roundHalfEven (n d : Nat) : n / d ≤ roundHalfEven n d := by
  unfold roundHalfEven
  dsimp only
  split
  · omega
  · split <;> omega

theorem roundHalfEven_of_dvd {n d : Nat} (hd : 0 < d) (h : n % d = 0) :
    roundHalfEven n d = n / d := by
  simp [roundHalfEven, h, hd]

namespace Double

/-- The exponent of the last place that leaves `n / d` with 53 bits before the point, but at least
that of the smallest subnormal. -/
def lastPlace (n d : Nat) : Int :=
  let e : Int := (n.log2 : Int) - (d.log2 : Int) - 52
  let short : Bool :=
    if 0 ≤ e then decide (n < exponentWeight * (d <<< e.toNat))
    else decide (n <<< (-e).toNat < exponentWeight * d)
  max (-1074) (if short then e - 1 else e)

/-- The magnitude of the double nearest to `n / d`. -/
def nearestMagnitude (n d : Nat) : Nat :=
  if n = 0 then 0
  else
    let e := lastPlace n d
    let significand :=
      if 0 ≤ e then roundHalfEven n (d <<< e.toNat) else roundHalfEven (n <<< (-e).toNat) d
    min infinityMagnitude ((e + 1074).toNat * exponentWeight + significand)

/-- The double nearest to a signed quotient. -/
def ofRatio (negative : Bool) (n d : Nat) : Double := ofMagnitude negative (nearestMagnitude n d)

/-- The double nearest to an integer. -/
def ofInt (n : Int) : Double := ofRatio (decide (n < 0)) n.natAbs 1

/-- The double nearest to `digits · 10 ^ exponent`. -/
def ofDecimal (negative : Bool) (digits : Nat) (exponent : Int) : Double :=
  if 0 ≤ exponent then ofRatio negative (digits * Nat.pow 10 exponent.toNat) 1
  else ofRatio negative digits (Nat.pow 10 (-exponent).toNat)

/-- The magnitude of a finite double as a quotient. -/
def ratio (x : Double) : Nat × Nat :=
  let field := x.magnitude / exponentWeight
  let fraction := x.magnitude % exponentWeight
  let significand := if field = 0 then fraction else fraction + exponentWeight
  let e : Int := (max field 1 : Nat) - 1075
  if 0 ≤ e then (significand <<< e.toNat, 1) else (significand, 1 <<< (-e).toNat)

/-- The product of two finite doubles. -/
def mul (x y : Double) : Double :=
  ofRatio (x.isNegative != y.isNegative) (x.ratio.1 * y.ratio.1) (x.ratio.2 * y.ratio.2)

/-- The quotient of two finite doubles, of which the second is not zero. -/
def div (x y : Double) : Double :=
  ofRatio (x.isNegative != y.isNegative) (x.ratio.1 * y.ratio.2) (x.ratio.2 * y.ratio.1)

example : (ofInt 1).bits = 0x3FF0000000000000 := by decide +kernel
example : ofInt 9007199254740993 = ofInt 9007199254740992 := by decide +kernel
example : (ofDecimal false 1 (-1)).bits = 0x3FB999999999999A := by decide +kernel
example : (ofDecimal true 5 (-324)).bits = 0x8000000000000001 := by decide +kernel
example : (ofInt 6).div (ofInt (-4)) = ofDecimal true 15 (-1) := by decide +kernel
example : (ofInt 6).mul (ofDecimal false 25 (-2)) = ofDecimal false 15 (-1) := by decide +kernel

end Double

end Dossier
