/-
# Matching

A text of `n` characters has the places `0` to `n`, and a set of places is a natural number whose
bit `i` says whether place `i` is in it.  Of an expression and a text a `Plan` is made, in which
every set of characters and every assertion has become the set of places where it applies.
`Plan.spread` takes the places where stretches begin to the places where matching stretches end:
a character shifts the places before it on by one, an assertion keeps places, and a repetition
without bound goes on from what it has reached until nothing new comes.

A repetition without bound notes the places where its body has begun in a table, each repetition
under a number of its own, and does not begin there again.  Stretches from these places have
already been followed to their ends, and on from there.  So repetitions inside one another are not
repeated for each other's sake: each begins at most once in each place.

A text has a match when some stretch is found from all its places (`Regex.isMatch`).
-/
import Dossier.Regex.Basic

namespace Dossier

/-! ## 1. Texts -/

/-- A text, and for each of its characters the places before it. -/
structure Subject where
  text : List Char
  places : List (Char × Nat)

namespace Subject

/-- Adds a place to those before a character. -/
def addPlace (c : Char) (place : Nat) : List (Char × Nat) → List (Char × Nat)
  | [] => [(c, place)]
  | (d, places) :: rest =>
    if c = d then (d, places ||| place) :: rest else (d, places) :: addPlace c place rest

def ofText (t : List Char) : Subject where
  text := t
  places := (t.foldl (fun (known, place) c => (addPlace c place known, 2 * place))
    (([], 1) : List (Char × Nat) × Nat)).1

/-- The places before a character. -/
def before (s : Subject) (c : Char) : Nat := (s.places.lookup c).getD 0

/-- The places before the characters of a set. -/
def beforeSet (s : Subject) (members : CharSet) : Nat :=
  s.places.foldl (fun found (c, places) => if members.contains c then found ||| places else found) 0

/-- The places where an assertion holds, for the text after the character `previous`. -/
def lookPlaces (assertion : Look) : Option Char → List Char → Nat
  | previous, [] => (assertion.holds previous none).toNat
  | previous, c :: rest =>
    2 * lookPlaces assertion (some c) rest + (assertion.holds previous (some c)).toNat

end Subject

/-! ## 2. Plans -/

/-- What is done with the places of a text.  A plan of two parts has the count of the tables that
the first part needs, and copies have that of each copy. -/
inductive Plan where
  /-- Characters one after the other, each before some places. -/
  | steps (places : List Nat)
  /-- Only some places go on. -/
  | keep (places : Nat)
  | seq (first second : Plan) (width : Nat)
  | alt (first second : Plan) (width : Nat)
  /-- Once or more. -/
  | plus (body : Plan)
  /-- From `least` times to `more` times more. -/
  | copies (body : Plan) (width least more : Nat)

namespace Plan

instance : Inhabited Plan := ⟨.steps []⟩

/-- How many repetitions without bound a plan has, copies counted each. -/
def width : Plan → Nat
  | steps _ => 0
  | keep _ => 0
  | seq _ b width => width + b.width
  | alt _ b width => width + b.width
  | plus body => body.width + 1
  | copies _ width least more => width * (least + more)

end Plan

/-- The plan of an expression. -/
def Regex.plan (s : Subject) : Regex → Plan
  | empty => .steps []
  | literal text => .steps (text.map s.before)
  | chars members => .steps [s.beforeSet members]
  | look assertion => .keep (Subject.lookPlaces assertion none s.text)
  | group _ body => body.plan s
  | seq a b => let first := a.plan s; .seq first (b.plan s) first.width
  | alt a b => let first := a.plan s; .alt first (b.plan s) first.width
  | loop body least most _ =>
    let body := body.plan s
    match most, least with
    | some most, least => .copies body body.width least (most - least)
    | none, 0 => .alt (.steps []) (.plus body) 0
    | none, least + 1 => .seq (.copies body body.width least 0) (.plus body) (body.width * least)

namespace Plan

/-! ## 3. Places -/

/-- The places reached by characters one after the other. -/
def stepsFrom : List Nat → Nat → Nat
  | [], s => s
  | places :: rest, s => if s = 0 then 0 else stepsFrom rest ((s &&& places) <<< 1)

/-- Repeats a step from the places that are new, which are noted, while there are any. -/
def plusFrom (step : Nat → Array Nat → Nat × Array Nat) (number : Nat) :
    Nat → Nat → Nat → Array Nat → Nat × Array Nat
  | 0, _, found, begun => (found, begun)
  | fuel + 1, s, found, begun =>
    let known := begun.getD number 0
    let new := s ^^^ (s &&& known)
    if new = 0 then (found, begun)
    else
      let (ends, begun) := step new (begun.setIfInBounds number (known ||| new))
      plusFrom step number fuel ends (found ||| ends) begun

/-- Takes the steps of copies, of which the least count have been done or more are to come. -/
def copiesFrom (step : Nat → Nat → Array Nat → Nat × Array Nat) (least : Nat) :
    Nat → Nat → Nat → Nat → Array Nat → Nat × Array Nat
  | remaining, done, s, found, begun =>
    let found := if least ≤ done then found ||| s else found
    match remaining with
    | 0 => (found, begun)
    | remaining + 1 =>
      if s = 0 then (found, begun)
      else
        let (s, begun) := step done s begun
        copiesFrom step least remaining (done + 1) s found begun

/-- The places where stretches end that begin in some places, but for those that have been found
before, and the table of the places where repetitions have begun.  The tables of a plan have the
numbers from `number` on. -/
def spread (fuel : Nat) : Plan → Nat → Nat → Array Nat → Nat × Array Nat
  | steps places, _, s, begun => (stepsFrom places s, begun)
  | keep places, _, s, begun => (s &&& places, begun)
  | seq a b width, number, s, begun =>
    let (s, begun) := a.spread fuel number s begun
    if s = 0 then (0, begun) else b.spread fuel (number + width) s begun
  | alt a b width, number, s, begun =>
    let (first, begun) := a.spread fuel number s begun
    let (second, begun) := b.spread fuel (number + width) s begun
    (first ||| second, begun)
  | plus body, number, s, begun =>
    plusFrom (fun s begun => body.spread fuel (number + 1) s begun) number fuel s 0 begun
  | copies body width least more, number, s, begun =>
    copiesFrom (fun i s begun => body.spread fuel (number + width * i) s begun) least (least + more)
      0 s 0 begun

end Plan

/-! ## 4. Matches -/

/-- Whether some stretch of a text matches.  A repetition begins anew no more often than there are
places. -/
def Regex.isMatch (r : Regex) (t : List Char) : Bool :=
  let plan := r.plan (.ofText t)
  (plan.spread (t.length + 2) 0 (1 <<< (t.length + 1) - 1) (Array.replicate plan.width 0)).1 != 0

example : (Regex.seq (.literal ['b']) (.look .textEnd)).isMatch "abab".toList = true := by
  decide +kernel
example : (Regex.seq (.look .textStart) (.literal ['b'])).isMatch "abab".toList = false := by
  decide +kernel
example : (Regex.loop (.loop (.literal ['a']) 1 none false) 2 (some 2) false).isMatch
    "baab".toList = true := by decide +kernel

end Dossier
