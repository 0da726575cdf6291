/-
# Regular expressions

A regular expression is built from texts, sets of characters and assertions.  It is put together
by functions that bring it into a plain form: `Regex.seqAll` joins texts that follow each other,
`Regex.altAll` makes one set of single characters and takes out what its alternatives begin with,
and `Regex.repeated` drops repetitions that change nothing.  The plain form matches what the parts
say and takes less room (see `Regex.fits`).
-/
import Dossier.Regex.Look

namespace Dossier

inductive Regex where
  /-- The empty stretch, anywhere. -/
  | empty
  /-- The characters of a text, one after the other. -/
  | literal (text : List Char)
  /-- One character of a set. -/
  | chars (members : CharSet)
  /-- The empty stretch at a place where an assertion holds. -/
  | look (assertion : Look)
  /-- What a group matches is noted under its number. -/
  | group (number : Nat) (body : Regex)
  | seq (first second : Regex)
  | alt (first second : Regex)
  /-- At least `least` times, and at most `most` times if there is a bound; `lazy` repetitions
  prefer few times, which does not change whether there is a match. -/
  | loop (body : Regex) (least : Nat) (most : Option Nat) (lazy : Bool)
deriving DecidableEq, Inhabited

namespace Regex

/-! ## 1. Properties -/

/-- The least number of characters of a match; none if a set without members is in the way. -/
def least? : Regex → Option Nat
  | empty => some 0
  | literal text => some text.length
  | chars members => if members = .empty then none else some 1
  | look _ => some 0
  | group _ body => body.least?
  | seq a b => do some ((← a.least?) + (← b.least?))
  | alt a b => do some (min (← a.least?) (← b.least?))
  | loop body least _ _ => body.least?.map (least * ·)

/-- Whether all matches have a character at least. -/
def isFilled (r : Regex) : Bool := r.least?.any (0 < ·)

/-- Whether all matches are empty: there are only assertions. -/
def isVoid : Regex → Bool
  | empty => true
  | literal text => text.isEmpty
  | chars _ => false
  | look _ => true
  | group _ body => body.isVoid
  | seq a b => a.isVoid && b.isVoid
  | alt a b => a.isVoid && b.isVoid
  | loop body _ most _ => most.isSome && body.isVoid

/-- Whether all matches begin where an assertion holds, because it stands first. -/
def startsAt (l : Look) : Regex → Bool
  | look assertion => assertion == l
  | group _ body => body.startsAt l
  | seq a b => a.startsAt l || (a.isVoid && b.startsAt l)
  | alt a b => a.startsAt l && b.startsAt l
  | loop body least _ _ => 0 < least && body.startsAt l
  | _ => false

/-- Whether all matches end where an assertion holds, because it stands last. -/
def endsAt (l : Look) : Regex → Bool
  | look assertion => assertion == l
  | group _ body => body.endsAt l
  | seq a b => b.endsAt l || (b.isVoid && a.endsAt l)
  | alt a b => a.endsAt l && b.endsAt l
  | loop body least _ _ => 0 < least && body.endsAt l
  | _ => false

/-! ## 2. Sets and repetitions -/

/-- One character of a set; a set of one character is a text. -/
def ofSet (members : CharSet) : Regex :=
  match members.single? with
  | some c => literal [c]
  | none => chars members

/-- A repetition.  What matches only the empty stretch is taken once at most. -/
def repeated (body : Regex) (least : Nat) (most : Option Nat) (lazy : Bool) : Regex :=
  let (least, most) := if body.isVoid then (min 1 least, some (min 1 (most.getD 1)))
    else (least, most)
  if most = some 0 then empty
  else if least = 1 ∧ most = some 1 then body
  else loop body least most lazy

/-! ## 3. Sequences -/

/-- The parts of a sequence. -/
def parts : Regex → List Regex
  | empty => []
  | seq a b => a :: b.parts
  | r => [r]

/-- Puts a part in front of others; a text joins a text. -/
def joinPart : Regex → List Regex → List Regex
  | literal a, literal b :: rest => literal (a ++ b) :: rest
  | r, rest => r :: rest

/-- The sequence of parts. -/
def ofParts (rs : List Regex) : Regex :=
  match rs.reverse with
  | [] => empty
  | last :: before => before.foldl (fun rest r => seq r rest) last

/-- Expressions one after the other. -/
def seqAll (rs : List Regex) : Regex := ofParts ((rs.flatMap parts).foldr joinPart [])

/-! ## 4. Alternatives -/

def alternatives : Regex → List Regex
  | alt a b => a :: b.alternatives
  | r => [r]

/-- The expression of alternatives; without any there is no match. -/
def ofAlternatives (rs : List Regex) : Regex :=
  match rs.reverse with
  | [] => chars .empty
  | last :: before => before.foldl (fun rest r => alt r rest) last

/-- The character of a text of one character. -/
def singleChar? : Regex → Option Char
  | literal [c] => some c
  | _ => none

def set? : Regex → Option CharSet
  | chars members => some members
  | _ => none

/-- The parts of a sequence of several. -/
def severalParts? : Regex → Option (List Regex)
  | seq a b => some (a :: b.parts)
  | _ => none

/-- What two lists begin with. -/
def commonStart (as bs : List Regex) : List Regex :=
  ((as.zip bs).takeWhile fun (a, b) => a == b).map (·.1)

/-- One of several expressions.  The fuel bounds how often what the alternatives begin with is
taken out. -/
def altWith : Nat → List Regex → Regex
  | fuel, rs =>
    let rs := rs.flatMap alternatives
    if rs.length = 1 then ofAlternatives rs
    else
      match rs.mapM singleChar?, rs.mapM set?, rs.mapM severalParts? with
      | some cs, _, _ => ofSet (.ofCodes (cs.map Char.toNat))
      | _, some sets, _ => ofSet (.unionAll sets)
      | _, _, some (first :: rest) =>
        let start := rest.foldl commonStart first
        match fuel with
        | 0 => ofAlternatives rs
        | fuel + 1 =>
          if start.isEmpty then ofAlternatives rs
          else
            let rests := (first :: rest).map fun parts => seqAll (parts.drop start.length)
            seqAll (start ++ [altWith fuel rests])
      | _, _, _ => ofAlternatives rs

/-- The greatest depth to which the parts of a pattern are nested. -/
def depthLimit : Nat := 250

/-- One of several expressions.  What is taken out lies deeper each time. -/
def altAll (rs : List Regex) : Regex := altWith depthLimit rs

example : seqAll [literal ['a'], empty, seqAll [literal ['b'], literal ['c']]] =
    literal ['a', 'b', 'c'] := by decide
example : altAll [literal ['a'], literal ['b']] = chars ⟨#[(97, 98)]⟩ := by cbv
example : repeated (look .textStart) 3 none false = look .textStart := by decide

end Regex

end Dossier
