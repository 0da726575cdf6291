/-
# Decimal numbers of 128 bits

A decimal number is kept as its word, like a double.  The word holds a sign, an exponent of ten
that is biased by 6176, and a coefficient.  Where the two bits after the sign are set the exponent
stands two bits lower, and what is left for the coefficient would make it greater than 34 digits
allow; such a coefficient counts as zero, wherever it stands.
-/

namespace Dossier

/-- A decimal number, as the word that represents it. -/
structure Decimal where
  bits : BitVec 128
deriving DecidableEq, Inhabited

namespace Decimal

/-- What a decimal number is apart from its sign. -/
inductive Kind where
  | nan
  | infinity
  | finite (exponent : Int) (coefficient : Nat)

def isNegative (x : Decimal) : Bool := x.bits.msb

/-- The greatest coefficient, of 34 digits. -/
def lastCoefficient : Nat := 9999999999999999999999999999999999

/-- The exponent whose last bit is the given one. -/
def exponentAt (x : Decimal) (place : Nat) : Int := (x.bits.extractLsb' place 14).toNat - 6176

def kind (x : Decimal) : Kind :=
  if x.bits.extractLsb' 123 4 = 15 then
    if x.bits.getLsbD 122 then .nan else .infinity
  else if x.bits.extractLsb' 125 2 = 3 then .finite (x.exponentAt 111) 0
  else
    let coefficient := (x.bits.extractLsb' 0 113).toNat
    .finite (x.exponentAt 113) (if coefficient ≤ lastCoefficient then coefficient else 0)

/-- The digits of a coefficient, with the point where the exponent puts it.  If the exponent is
positive or the number is less than a millionth, the point stands after the first digit and the
power of ten at the end. -/
def finiteDigits (exponent : Int) (digits : List Char) : List Char :=
  let power := exponent + digits.length - 1
  if exponent = 0 then digits
  else if exponent < 0 ∧ -6 ≤ power then
    let fraction := exponent.natAbs
    let whole := digits.length - fraction
    if whole = 0 then '0' :: '.' :: List.replicate (fraction - digits.length) '0' ++ digits
    else digits.take whole ++ '.' :: digits.drop whole
  else
    let tail := if digits.length = 1 then [] else '.' :: digits.drop 1
    let sign := if 0 < power then ['+'] else []
    digits.take 1 ++ tail ++ 'E' :: sign ++ (toString power).toList

/-- The text of a decimal number.  A NaN has no sign. -/
def toText (x : Decimal) : String :=
  let sign := if x.isNegative then ['-'] else []
  match x.kind with
  | .nan => "NaN"
  | .infinity => String.ofList (sign ++ "Infinity".toList)
  | .finite exponent coefficient =>
    String.ofList (sign ++ finiteDigits exponent (Nat.toDigits 10 coefficient))

end Decimal

end Dossier
