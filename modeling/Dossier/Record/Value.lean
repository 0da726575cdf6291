/-
# Values of fields

A `Value` is what a record holds in a field, before it is turned into a stored value or after it
has been read back.  Values of an application's own type are opaque: two of them are the same only
if they are the same object, whose handle they share.

Equality of values (`same`) is numeric on doubles, so a NaN is not the same as itself.  Sets are
kept as sequences that are sorted and free of duplicates (`sortDistinct`), by an order that
compares sequences and records item by item.
-/
import Dossier.Double.Basic
import Dossier.Time.Timestamp

namespace Dossier

/-- A value of an application's own type. -/
structure CustomValue where
  typeName : String
  /-- Names the object; no two objects share one. -/
  handle : Nat
  payload : Int64
deriving DecidableEq, Inhabited

/-- What a record holds in a field. -/
inductive Value where
  | null
  | bool (value : Bool)
  | int32 (value : Int32)
  | int64 (value : Int64)
  | double (value : Double)
  | string (value : String)
  | instant (value : Instant)
  | timestamp (value : Timestamp)
  /-- A stored date: milliseconds since 1970. -/
  | date (millis : Int64)
  /-- The items of a sequence or a set. -/
  | seq (items : List Value)
  /-- The fields of a record, in the order of their declaration. -/
  | record (fields : List Value)
  | custom (value : CustomValue)
deriving Inhabited

namespace Value

/-- The name of a value's kind. -/
def kind : Value → String
  | null => "null"
  | bool _ => "bool"
  | int32 _ => "i32"
  | int64 _ => "i64"
  | double _ => "f64"
  | string _ => "String"
  | instant _ => "DateTime<Utc>"
  | timestamp _ => "Timestamp"
  | date _ => "bson::DateTime"
  | seq _ => "sequence"
  | record _ => "record"
  | custom value => value.typeName

/-! ## 1. Sameness -/

mutual

/-- Whether two values are the same. -/
def same : Value → Value → Bool
  | null, null => true
  | bool a, bool b => a == b
  | int32 a, int32 b => a == b
  | int64 a, int64 b => a == b
  | double a, double b => a.equal b
  | string a, string b => a == b
  | instant a, instant b => a == b
  | timestamp a, timestamp b => a == b
  | date a, date b => a == b
  | seq a, seq b => sameAll a b
  | record a, record b => sameAll a b
  | custom a, custom b => a.handle == b.handle
  | _, _ => false

def sameAll : List Value → List Value → Bool
  | [], [] => true
  | a :: as, b :: bs => same a b && sameAll as bs
  | _, _ => false

end

/-! ## 2. Order -/

/-- The place of a value's kind in the order; null comes first. -/
def rank : Value → Nat
  | null => 0
  | bool _ => 1
  | int32 _ => 2
  | int64 _ => 3
  | double _ => 4
  | string _ => 5
  | instant _ => 6
  | timestamp _ => 7
  | date _ => 8
  | seq _ => 9
  | record _ => 10
  | custom _ => 11

mutual

/-- The order of the items of a set, whose values are of one type.  Strings are ordered by their
code points. -/
def compare : Value → Value → Ordering
  | bool a, bool b => Ord.compare a b
  | int32 a, int32 b => Ord.compare a.toInt b.toInt
  | int64 a, int64 b => Ord.compare a.toInt b.toInt
  | double a, double b => Ord.compare a.rank b.rank
  | string a, string b => Ord.compare a b
  | instant a, instant b => a.compare b
  | timestamp a, timestamp b => a.compare b
  | date a, date b => Ord.compare a.toInt b.toInt
  | seq a, seq b => compareAll a b
  | record a, record b => compareAll a b
  | custom a, custom b => Ord.compare a.handle b.handle
  | a, b => Ord.compare a.rank b.rank

/-- Item by item; a list comes after the lists that it continues. -/
def compareAll : List Value → List Value → Ordering
  | [], [] => .eq
  | [], _ :: _ => .lt
  | _ :: _, [] => .gt
  | a :: as, b :: bs => (compare a b).then (compareAll as bs)

end

/-- Puts an item into its place among sorted ones, unless it is there already. -/
def insertDistinct (item : Value) : List Value → List Value
  | [] => [item]
  | other :: rest =>
    match compare item other with
    | .lt => item :: other :: rest
    | .eq => other :: rest
    | .gt => other :: insertDistinct item rest

/-- The items in their order, each once. -/
def sortDistinct : List Value → List Value
  | [] => []
  | item :: rest => insertDistinct item (sortDistinct rest)

end Value

end Dossier
