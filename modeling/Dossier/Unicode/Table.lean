/-
# Tables of characters

A set of characters is written as ranges of code points in hexadecimal, `41-5A 61-7A B5`, in
rising order; of a range such as `100-12E/2` every second code point is a member.  A mapping of
characters is written as runs `first,last,step,shift`: every `step`-th code point from the first
to the last is shifted.

The lines of a table are texts so that the tables stay small; they are decoded once.
-/
import Dossier.Text.Hex
import Dossier.Unicode.CharSet

namespace Dossier

/-! ## 1. Numbers and words in the lines -/

/-- The words between blanks. -/
def wordsOf (text : String) : List (List Char) :=
  let (words, last) := text.toList.foldr
    (fun c (words, current) => if c == ' ' then (current :: words, []) else (words, c :: current))
    (([], []) : List (List Char) × List Char)
  (last :: words).filter fun w => !w.isEmpty

/-- The number that hexadecimal digits write, other characters counting as nothing. -/
def hexNumber (digits : List Char) : Nat :=
  digits.foldl (fun n c => 16 * n + (hexValue? c).getD 0) 0

/-- The parts of a word between separators. -/
def partsOf (separator : Char) (word : List Char) : List (List Char) :=
  let (parts, last) := word.foldr
    (fun c (parts, current) =>
      if c == separator then (current :: parts, []) else (parts, c :: current))
    (([], []) : List (List Char) × List Char)
  last :: parts

/-! ## 2. Sets -/

namespace CharSet

/-- The ranges of a word: one range, or one for each second code point. -/
def rangesOf (word : List Char) : List (Nat × Nat) :=
  match (partsOf '-' word).map (partsOf '/') with
  | [[first], [last]] => [(hexNumber first, hexNumber last)]
  | [[first], [last, _]] =>
    let first := hexNumber first
    (List.range ((hexNumber last - first) / 2 + 1)).map fun i => (first + 2 * i, first + 2 * i)
  | _ => [(hexNumber word, hexNumber word)]

/-- The set that lines write in rising order. -/
def ofLines (lines : List String) : CharSet :=
  ofOrdered (lines.flatMap fun line => (wordsOf line).flatMap rangesOf)

example : (ofLines ["1-3 7", "9-D/2"]).ranges = #[(1, 3), (7, 7), (9, 9), (11, 11), (13, 13)] := by
  cbv

end CharSet

/-! ## 3. Mappings -/

/-- Every `step`-th code point from `first` to `last`, shifted. -/
structure CharRun where
  first : Nat
  last : Nat
  step : Nat
  shift : Int
deriving Inhabited

namespace CharRun

/-- The number that digits with a sign write. -/
def signedNumber : List Char → Int
  | '-' :: digits => -(hexNumber digits : Int)
  | digits => hexNumber digits

def ofLines (lines : List String) : List CharRun :=
  lines.flatMap fun line => (wordsOf line).filterMap fun word =>
    match partsOf ',' word with
    | [first, last, step, shift] =>
      some ⟨hexNumber first, hexNumber last, hexNumber step, signedNumber shift⟩
    | _ => none

def covers (r : CharRun) (n : Nat) : Bool :=
  decide (r.first ≤ n) && decide (n ≤ r.last) && (n - r.first) % r.step == 0

/-- What the runs make of a code point. -/
def apply (runs : List CharRun) (n : Nat) : Option Nat :=
  (runs.find? (covers · n)).map fun r => ((n : Int) + r.shift).toNat

/-- The code points that a run covers. -/
def codes (r : CharRun) : List Nat :=
  (List.range ((r.last - r.first) / r.step + 1)).map fun i => r.first + r.step * i

/-- The code points that some run covers. -/
def sources (runs : List CharRun) : CharSet := .ofCodes (runs.flatMap codes)

/-- The code points of which the runs make the given one. -/
def preimages (runs : List CharRun) (n : Nat) : List Nat :=
  runs.filterMap fun r =>
    let source := ((n : Int) - r.shift).toNat
    if r.covers source then some source else none

end CharRun

end Dossier
