/-
# Sets of characters

A set of characters is kept as ranges of code points in rising order that neither overlap nor
touch, so that a set has one form only (`CharSet.ofOrdered` brings ranges into it).  Membership is
searched by halving.  The surrogates are code points without characters: `CharSet.range` and
`CharSet.complement` leave them out.
-/
namespace Dossier

/-- Ranges of code points in rising order that neither overlap nor touch. -/
structure CharSet where
  ranges : Array (Nat × Nat)
deriving DecidableEq, Inhabited

namespace CharSet

/-- The greatest code point. -/
def lastCode : Nat := 0x10FFFF

/-! ## 1. Lists of ranges -/

/-- Joins a range to those of a list in rising order that overlap or touch it. -/
def joinFrom : Nat × Nat → List (Nat × Nat) → List (Nat × Nat)
  | r, [] => [r]
  | r, s :: rest =>
    if s.1 ≤ r.2 + 1 then joinFrom (r.1, max r.2 s.2) rest else r :: joinFrom s rest

/-- The ranges between those of a list in rising order, from a code point on. -/
def gaps : Nat → List (Nat × Nat) → List (Nat × Nat)
  | n, [] => if n ≤ lastCode then [(n, lastCode)] else []
  | n, r :: rest => if n < r.1 then (n, r.1 - 1) :: gaps (r.2 + 1) rest else gaps (r.2 + 1) rest

/-! ## 2. Sets -/

def empty : CharSet := ⟨#[]⟩

/-- The code points without characters. -/
def surrogates : CharSet := ⟨#[(0xD800, 0xDFFF)]⟩

/-- The characters between two, both included. -/
def range (first last : Nat) : CharSet :=
  if first < 0xD800 ∧ 0xDFFF < last then ⟨#[(first, 0xD7FF), (0xE000, last)]⟩
  else ⟨#[(first, last)]⟩

def all : CharSet := range 0 lastCode

def single (c : Char) : CharSet := ⟨#[(c.toNat, c.toNat)]⟩

/-- The set of ranges whose first code points rise. -/
def ofOrdered : List (Nat × Nat) → CharSet
  | [] => empty
  | r :: rest => ⟨(joinFrom r rest).toArray⟩

/-- The set of ranges in any order. -/
def ofRanges (rs : List (Nat × Nat)) : CharSet := ofOrdered (rs.mergeSort fun r s => r.1 ≤ s.1)

def ofCodes (codes : List Nat) : CharSet := ofRanges (codes.map fun n => (n, n))

def union (s t : CharSet) : CharSet :=
  ofOrdered (s.ranges.toList.merge t.ranges.toList fun r s => r.1 ≤ s.1)

def unionAll (sets : List CharSet) : CharSet := ofRanges (sets.flatMap (·.ranges.toList))

/-- The characters that are not in a set. -/
def complement (s : CharSet) : CharSet := ⟨(gaps 0 (s.union surrogates).ranges.toList).toArray⟩

def intersection (s t : CharSet) : CharSet := (s.complement.union t.complement).complement

def difference (s t : CharSet) : CharSet := s.intersection t.complement

/-- What is in one of two sets and not in both. -/
def symmetricDifference (s t : CharSet) : CharSet := (s.union t).difference (s.intersection t)

/-! ## 3. Members -/

/-- Whether one of the ranges from `low` on, before `high`, holds a code point. -/
def search (ranges : Array (Nat × Nat)) (n : Nat) (low high : Nat) : Bool :=
  if low < high then
    let middle := (low + high) / 2
    match ranges[middle]? with
    | none => false
    | some (first, last) =>
      if n < first then search ranges n low middle
      else if last < n then search ranges n (middle + 1) high
      else true
  else false
termination_by high - low

def hasCode (s : CharSet) (n : Nat) : Bool := search s.ranges n 0 s.ranges.size

def contains (s : CharSet) (c : Char) : Bool := s.hasCode c.toNat

/-- The code points of a set in rising order. -/
def codes (s : CharSet) : List Nat :=
  s.ranges.toList.flatMap fun r => (List.range (r.2 + 1 - r.1)).map (r.1 + ·)

/-- The greatest code point. -/
def greatest? (s : CharSet) : Option Nat := s.ranges.back?.map (·.2)

/-- Whether all members are ASCII. -/
def isAscii (s : CharSet) : Bool := s.greatest?.all (· < 128)

/-- The member of a set that has one only. -/
def single? (s : CharSet) : Option Char :=
  match s.ranges.toList with
  | [(first, last)] => if first = last then some (Char.ofNat first) else none
  | _ => none

example : (ofCodes [3, 1, 2, 7]).ranges = #[(1, 3), (7, 7)] := by cbv
example : ((range 2 5).union (range 6 9)).ranges = #[(2, 9)] := by cbv
example : ((range 2 5).difference (range 4 9)).ranges = #[(2, 3)] := by cbv

end CharSet

end Dossier
