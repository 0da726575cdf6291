/-
# JSON values

Whole numbers and others are kept apart: a number written without point and exponent is a whole
one if it fits into 64 bits, signed or not, and a double otherwise.  Objects keep the order of
their keys.
-/
import Dossier.Double.Basic

namespace Dossier

inductive Json where
  | null
  | bool (value : Bool)
  | whole (value : Int)
  | double (value : Double)
  | string (value : String)
  | array (items : List Json)
  | object (members : List (String × Json))
deriving Inhabited

namespace Json

/-- The value of a key in the members of an object. -/
def member? : List (String × Json) → String → Option Json
  | [], _ => none
  | (k, v) :: rest, key => if k = key then some v else member? rest key

/-- Sets a member: in place if the object has the key, else at the end. -/
def setMember : List (String × Json) → String → Json → List (String × Json)
  | [], key, value => [(key, value)]
  | (k, v) :: rest, key, value =>
    if k = key then (key, value) :: rest else (k, v) :: setMember rest key value

/-- The value of a key, if the value is an object that has it. -/
def get? (key : String) : Json → Option Json
  | .object members => member? members key
  | _ => none

def asString? : Json → Option String
  | .string s => some s
  | _ => none

def asBool? : Json → Option Bool
  | .bool b => some b
  | _ => none

def asArray? : Json → Option (List Json)
  | .array items => some items
  | _ => none

def asObject? : Json → Option (List (String × Json))
  | .object members => some members
  | _ => none

/-- A whole number from `low` to `high`. -/
def asWhole? (low high : Int) : Json → Option Int
  | .whole n => if low ≤ n ∧ n ≤ high then some n else none
  | _ => none

/-- A whole number from zero to below a size. -/
def asNat? (size : Nat) (j : Json) : Option Nat := (j.asWhole? 0 (size - 1)).map Int.toNat

/-- Reads a part that may be missing, but may not be of another kind. -/
def partOr {α : Type} (fallback : α) (read : Json → Option α) : Option Json → Option α
  | none => some fallback
  | some j => read j

end Json

end Dossier
