/-
# Pages of a search

A request names a filter, how many matches to skip and how many to give at most; a page holds the
records and says how many matches there are in all, if the store reports it.

In JSON a request is an object, of which every key may be missing and others are passed over, or an
array of its parts, whose end may be missing.
-/
import Dossier.Json.Basic
import Dossier.Record.Value

namespace Dossier

/-- What a search asks for. -/
structure SearchRequest where
  /-- A filter text; a blank one holds of every record. -/
  filter : String := ""
  /-- How many matches to skip, a number of 64 bits. -/
  skip : Nat := 0
  /-- How many records to give at most, a number of 64 bits; without it, all. -/
  size : Option Nat := none
deriving DecidableEq, Inhabited

/-- What a search gives: records, each as its field values. -/
structure SearchPage where
  skip : Nat
  /-- How many matches there are in all. -/
  count : Option Nat
  records : List (List Value)

namespace SearchRequest

/-- A number of 64 bits, or null for none. -/
def readLimit : Json → Option (Option Nat)
  | .null => some none
  | j => (j.asNat? UInt64.size).map some

/-- The request of its parts. -/
def ofParts? (filter skip size : Option Json) : Option SearchRequest := do
  let filter ← Json.partOr "" Json.asString? filter
  let skip ← Json.partOr 0 (Json.asNat? UInt64.size) skip
  let size ← Json.partOr none readLimit size
  return ⟨filter, skip, size⟩

def ofJson? : Json → Option SearchRequest
  | .object members =>
    ofParts? (Json.member? members "filter") (Json.member? members "from")
      (Json.member? members "size")
  | .array items =>
    if items.length ≤ 3 then ofParts? items[0]? items[1]? items[2]? else none
  | _ => none

/-- A count, or null. -/
def countJson : Option Nat → Json
  | some n => .whole n
  | none => .null

def toJson (r : SearchRequest) : Json :=
  .object [("filter", .string r.filter), ("from", .whole r.skip), ("size", countJson r.size)]

end SearchRequest

/-- A page, its records written by `record`. -/
def SearchPage.toJson (record : List Value → Json) (p : SearchPage) : Json :=
  .object [("from", .whole p.skip), ("size", .whole p.records.length),
    ("count", SearchRequest.countJson p.count), ("results", .array (p.records.map record))]

end Dossier
