/-
# The shortest decimal that reads back

A finite double `m · 2 ^ e` owns an interval of reals that round to it; its ends belong to it
exactly when `m` is even.  For one digit, two digits, and so on, the two decimals of that many
digits around the value are tried, and the first grid with one of them inside the interval gives
the text: the nearer of the two if both are inside, the larger on a tie.  Numbers are written
positionally, never with an exponent, and a whole number has no point.

`Double.shortest` gives digits and decimal exponent, `Double.toText` the text.
-/
import Dossier.Double.Basic

namespace Dossier

namespace Double

/-- A finite nonzero magnitude, in quarters of its last place: the value, the two ends of the
interval that rounds to it, and the power of two that the quarters are counted in. -/
structure Interval where
  low : Nat
  value : Nat
  high : Nat
  /-- Whether the ends round to the value too. -/
  closed : Bool
  exponent : Int
deriving DecidableEq

def interval (x : Double) : Interval :=
  let field := x.magnitude / exponentWeight
  let fraction := x.magnitude % exponentWeight
  let m := if field = 0 then fraction else fraction + exponentWeight
  { low := if fraction = 0 && decide (1 < field) then 4 * m - 1 else 4 * m - 2
    value := 4 * m
    high := 4 * m + 2
    closed := m % 2 == 0
    exponent := (max field 1 : Nat) - 1077 }

/-- `m · 2 ^ e` as a quotient of naturals. -/
def dyadic (m : Nat) (e : Int) : Nat × Nat :=
  if 0 ≤ e then (m <<< e.toNat, 1) else (m, 1 <<< (-e).toNat)

/-- `c · 10 ^ g` against the dyadic `m · 2 ^ e`. -/
def compareDecimal (c : Nat) (g : Int) (m : Nat) (e : Int) : Ordering :=
  let (n, d) := dyadic m e
  if 0 ≤ g then compare (c * Nat.pow 10 g.toNat * d) n
  else compare (c * d) (n * Nat.pow 10 (-g).toNat)

/-- Whether `c · 10 ^ g` rounds to the value that owns the interval. -/
def Interval.contains (i : Interval) (c : Nat) (g : Int) : Bool :=
  let aboveLow := compareDecimal c g i.low i.exponent
  let belowHigh := compareDecimal c g i.high i.exponent
  (aboveLow == .gt || (i.closed && aboveLow == .eq)) &&
    (belowHigh == .lt || (i.closed && belowHigh == .eq))

/-- The value in units of `10 ^ g`, rounded down. -/
def Interval.floor (i : Interval) (g : Int) : Nat :=
  let (n, d) := dyadic i.value i.exponent
  if 0 ≤ g then n / (d * Nat.pow 10 g.toNat) else n * Nat.pow 10 (-g).toNat / d

/-- Of the two neighbours of the value on the grid `10 ^ g`, the one that reads back; the nearer
if both do, the larger if they are equally near. -/
def Interval.onGrid (i : Interval) (g : Int) : Option Nat :=
  let c := i.floor g
  match i.contains c g, i.contains (c + 1) g with
  | true, true =>
    -- the midpoint of the two neighbours decides
    if compareDecimal (2 * c + 1) g (2 * i.value) i.exponent == .gt then some c else some (c + 1)
  | true, false => some c
  | false, true => some (c + 1)
  | false, false => none

/-- The decimal exponent of the leading digit.  Every nonzero double is at least `10 ^ -324`, so
scaling by `10 ^ 350` leaves a whole part whose digits can be counted. -/
def Interval.leadingExponent (i : Interval) : Int :=
  ((Nat.toDigits 10 (i.floor (-350))).length : Int) - 351

/-- Tries the grids from coarse to fine. -/
def Interval.search (i : Interval) : Nat → Int → Nat × Int
  | 0, g => (i.floor g, g)
  | fuel + 1, g =>
    match i.onGrid g with
    | some c => (c, g)
    | none => i.search fuel (g - 1)

/-- Digits and decimal exponent of the shortest decimal that reads back as the nonzero finite
double; 17 digits always suffice. -/
def shortest (x : Double) : Nat × Int :=
  let i := x.interval
  i.search 17 i.leadingExponent

/-- `digits · 10 ^ exponent` in positional notation, without zeros after the last digit of a
fraction. -/
def positional (digits : Nat) (exponent : Int) : String :=
  let text := Nat.toDigits 10 digits
  if 0 ≤ exponent then String.ofList (text ++ List.replicate exponent.toNat '0')
  else
    let places := (-exponent).toNat
    let padded := List.replicate (places + 1 - text.length) '0' ++ text
    let whole := padded.take (padded.length - places)
    let fraction := (padded.drop (padded.length - places)).reverse.dropWhile (· == '0')
    if fraction.isEmpty then String.ofList whole
    else String.ofList (whole ++ '.' :: fraction.reverse)

/-- The text of a double. -/
def toText (x : Double) : String :=
  if x.isNaN then "NaN"
  else
    let sign := if x.isNegative then "-" else ""
    if x.isInfinite then sign ++ "inf"
    else if x.magnitude = 0 then sign ++ "0"
    else
      let (digits, exponent) := x.shortest
      sign ++ positional digits exponent

end Double

end Dossier
