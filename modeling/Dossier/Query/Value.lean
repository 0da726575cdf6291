/-
# Equality and order of values in queries

Queries look at values more loosely than `Bson.same`: integers of both widths are one kind, and as
soon as a double is involved both sides are compared as doubles.  Arrays agree item by item and
documents without regard to the order of keys.  Only booleans, numbers, dates and strings have an
order, each kind among itself.

Main statement: `Number.agrees_iff` (numbers agree exactly when they compare as equal).
-/
import Dossier.Bson.Same
import Dossier.Double.Rounding

namespace Dossier

/-! ## 1. Numbers -/

/-- A number as queries see it. -/
inductive Number where
  | int (value : Int)
  | double (value : Double)
deriving DecidableEq

namespace Number

def toDouble : Number → Double
  | .int n => Double.ofInt n
  | .double x => x

/-- The order of two numbers: exact among integers, else that of doubles. -/
def compare? : Number → Number → Option Ordering
  | .int m, .int n => some (compare m n)
  | m, n => m.toDouble.compare? n.toDouble

def agrees : Number → Number → Bool
  | .int m, .int n => m == n
  | m, n => m.toDouble.equal n.toDouble

theorem agrees_iff {m n : Number} : m.agrees n = true ↔ m.compare? n = some .eq := by
  cases m <;> cases n <;>
    simp [agrees, compare?, Double.equal_iff, Std.LawfulEqCmp.compare_eq_iff_eq]

end Number

namespace Bson

/-- The number that a value is. -/
def number? : Bson → Option Number
  | .int32 n => some (.int n.toInt)
  | .int64 n => some (.int n.toInt)
  | .double x => some (.double x)
  | _ => none

/-! ## 2. Agreement -/

/-- Agreement of values without parts. -/
def agreesPlain (a b : Bson) : Bool :=
  match a.number?, b.number? with
  | some m, some n => m.agrees n
  | none, none => same a b
  | _, _ => false

mutual

/-- Whether a query takes two values for equal. -/
def agrees : Bson → Bson → Bool
  | .array a, .array b => agreesItems a b
  | .document a, .document b => a.length == b.length && agreesFields a b
  | a, b => agreesPlain a b

def agreesItems : List Bson → List Bson → Bool
  | [], [] => true
  | a :: as, b :: bs => agrees a b && agreesItems as bs
  | _, _ => false

/-- Whether the second document has each field of the first one, with a value that agrees. -/
def agreesFields : List (String × Bson) → List (String × Bson) → Bool
  | [], _ => true
  | (k, a) :: rest, other =>
    (match Document.get? other k with
      | some b => agrees a b
      | none => false) && agreesFields rest other

end

/-! ## 3. Order -/

/-- The order of two values of one ordered kind. -/
def compare? (a b : Bson) : Option Ordering :=
  match a, b with
  | .boolean a, .boolean b => some (compare a b)
  | .date a, .date b => some (compare a.toInt b.toInt)
  | .string a, .string b => some (compare a b)
  | a, b =>
    match a.number?, b.number? with
    | some m, some n => m.compare? n
    | _, _ => none

/-- Whether a value says yes: anything but false, null and zero. -/
def isTruthy : Bson → Bool
  | .boolean b => b
  | .int32 n => n.toInt != 0
  | .int64 n => n.toInt != 0
  | .double x => x.isNonzero
  | .null => false
  | _ => true

end Bson

end Dossier
