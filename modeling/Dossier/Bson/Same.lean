/-
# Sameness of stored values

Two values are the same when they have the same element type and content, where documents, and the
scopes of code, are compared without regard to the order of their keys and doubles as numbers: a NaN
is not the same as itself, and the two zeros are the same.  Integers of different widths differ, and
an integer is never the same as a double.  Decimal numbers are the same if their words are.
-/
import Dossier.Bson.Basic

namespace Dossier

namespace Bson

mutual

/-- Whether two values are the same. -/
def same : Bson → Bson → Bool
  | .null, .null => true
  | .boolean a, .boolean b => a == b
  | .int32 a, .int32 b => a == b
  | .int64 a, .int64 b => a == b
  | .double a, .double b => a.equal b
  | .string a, .string b => a == b
  | .date a, .date b => a == b
  | .array a, .array b => sameItems a b
  | .document a, .document b => a.length == b.length && sameFields a b
  | .objectId a, .objectId b => a == b
  | .binary s a, .binary t b => s == t && a == b
  | .regex p o, .regex q r => p == q && o == r
  | .timestamp a i, .timestamp b j => a == b && i == j
  | .decimal a, .decimal b => a == b
  | .code a, .code b => a == b
  | .codeWithScope s a, .codeWithScope t b =>
    s == t && (a.length == b.length && sameFields a b)
  | .symbol a, .symbol b => a == b
  | .pointer c a, .pointer d b => c == d && a == b
  | .undefined, .undefined => true
  | .minKey, .minKey => true
  | .maxKey, .maxKey => true
  | _, _ => false

def sameItems : List Bson → List Bson → Bool
  | [], [] => true
  | a :: as, b :: bs => same a b && sameItems as bs
  | _, _ => false

/-- Whether each field of the first document is in the second one, with the same value. -/
def sameFields : List (String × Bson) → List (String × Bson) → Bool
  | [], _ => true
  | (k, a) :: rest, other =>
    (match Document.get? other k with
      | some b => same a b
      | none => false) && sameFields rest other

end

end Bson

end Dossier
