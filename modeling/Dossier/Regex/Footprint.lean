/-
# The room that expressions take

An expression is compiled to two automata over octets, one that reads forward and one that reads
backward, and neither may take more room than `roomLimit`: `Regex.fits`.  This module counts the
states of the automata and the room that they take, without the automata themselves.

A state takes `stateRoom`, and more for what leads from it: a branch keeps the numbers of the
states that it leads to, and a state with several octet ranges keeps a transition for each.  The
states of a set share what they end in (forward) or begin with (backward), as far as the shared
states are still found in their slots: a table of slots has room for one state each.
-/
import Dossier.Regex.Basic
import Dossier.Regex.Octet

namespace Dossier

/-! ## 1. Counting -/

/-- How many states an automaton has, and the room that they take. -/
structure Footprint where
  states : Nat := 0
  room : Nat := 0
deriving DecidableEq, Inhabited

namespace Footprint

/-- The room that an automaton may take. -/
def roomLimit : Nat := 10 * 1024 * 1024

/-- The room of a state by itself. -/
def stateRoom : Nat := 32

/-- The room of a transition. -/
def transitionRoom : Nat := 8

/-- The room of the number of a state. -/
def numberRoom : Nat := 4

/-- Adds states and what leads from them. -/
def add (states extra : Nat) (f : Footprint) : Option Footprint :=
  let room := f.room + states * stateRoom + extra
  if room ≤ roomLimit then some ⟨f.states + states, room⟩ else none

/-- Adds a branch to several states. -/
def addBranch (ways : Nat) : Footprint → Option Footprint := add 1 (ways * numberRoom)

/-- Adds a state with a transition for each of several octet ranges. -/
def addTransitions (ranges : Nat) : Footprint → Option Footprint := add 1 (ranges * transitionRoom)

/-- Adds copies. -/
def addCopies (copy : Footprint → Option Footprint) : Nat → Footprint → Option Footprint
  | 0, f => some f
  | n + 1, f => (copy f).bind (addCopies copy n)

/-! ## 2. Shared states -/

/-- The slot of a state that the given numbers describe: they are mixed one after the other into a
word of 64 bits, which is reduced to the count of slots. -/
def slotOf (count : Nat) (description : List Nat) : Nat :=
  (description.foldl (fun h n => (h ^^^ n.toUInt64) * 1099511628211)
    14695981039346656037 : UInt64).toNat % count

/-- A footprint, and in each slot of a table the description and the number of a state. -/
structure Shared where
  footprint : Footprint
  slots : Array (Option (List Nat × Nat))

namespace Shared

/-- Adds a state and puts it in its slot. -/
def fresh (extra slot : Nat) (description : List Nat) (m : Shared) : Option (Nat × Shared) :=
  (m.footprint.add 1 extra).map fun f =>
    let number := m.footprint.states
    (number, ⟨f, m.slots.setIfInBounds slot (some (description, number))⟩)

/-- The number of the state with a description, which is added unless it is found in its slot. -/
def state (extra : Nat) (description : List Nat) (m : Shared) : Option (Nat × Shared) :=
  let slot := slotOf m.slots.size description
  match m.slots.getD slot none with
  | some (found, number) =>
    if found = description then some (number, m) else m.fresh extra slot description
  | none => m.fresh extra slot description

/-- The state from which the sequences lead to a target, of which sequences with a common first
range are next to each other.  No sequence is longer than the depth. -/
def forward (target : Nat) : Nat → List (List OctetRange) → Shared → Option (Nat × Shared)
  | 0, _, m => some (target, m)
  | depth + 1, sequences, m => do
    let groups := sequences.splitBy fun a b => a.head? == b.head?
    let (transitions, m) ← groups.foldlM
      (fun (transitions, m) group =>
        match group with
        | (range :: rest) :: _ => do
          let (next, m) ← if rest.isEmpty then some (target, m)
            else forward target depth (group.map List.tail) m
          some ((range, next) :: transitions, m)
        | _ => some (transitions, m))
      (([], m) : List (OctetRange × Nat) × Shared)
    let description := transitions.reverse.flatMap fun (range, next) => [range.1, range.2, next]
    m.state (transitions.length * transitionRoom) description

/-- Adds the states of a sequence that is read from its end to its start, where `target` is
next. -/
def backward (target : Nat) (sequence : List OctetRange) (m : Shared) : Option Shared := do
  let (_, m) ← sequence.foldlM
    (fun ((next, m) : Nat × Shared) range => m.state 0 [next, range.1, range.2]) (target, m)
  some m

end Shared

/-! ## 3. Sets and lists of texts -/

/-- Adds the states of a set. -/
def addSet (back : Bool) (members : CharSet) (f : Footprint) : Option Footprint :=
  let sequences := members.ranges.toList.flatMap fun (first, last) => octetSequences first last
  if members.isAscii then f.add 1 0 >>= addTransitions members.ranges.size
  else if back then do
    let f ← f.addBranch sequences.length >>= add 1 0
    let m ← sequences.foldlM (fun m sequence => Shared.backward (f.states - 1) sequence m)
      ⟨f, .replicate 1000 none⟩
    some m.footprint
  else do
    let f ← f.add 1 0
    let (_, m) ← Shared.forward (f.states - 1) 4 sequences ⟨f, .replicate 10000 none⟩
    some m.footprint

/-- Texts up to each that is empty. -/
def splitAtEmpty (texts : List (List Nat)) : List (List (List Nat)) :=
  texts.foldr (fun text chunks =>
    match text, chunks with
    | [], chunks => [] :: chunks
    | text, chunk :: chunks => (text :: chunk) :: chunks
    | text, [] => [[text]]) [[]]

/-- Adds the states of a tree whose ways from the root spell texts, which are no longer than the
fuel.  The order in which texts end at a node and go on from it is kept. -/
def addTree : Nat → List (List Nat) → Footprint → Option Footprint
  | 0, _, f => some f
  | fuel + 1, texts, f =>
    match texts with
    | [text] => f.add (2 * text.length) (text.length * numberRoom)
    | texts =>
      if texts.all List.isEmpty then some f
      else do
        let texts := match texts with
          | [] :: rest => [] :: rest.dropWhile List.isEmpty
          | texts => texts
        let chunks := splitAtEmpty texts
        let filled := chunks.filter fun chunk => !chunk.isEmpty
        let f ← filled.foldlM (fun f chunk => do
          let groups := (chunk.mergeSort fun a b => a.headD 0 ≤ b.headD 0).splitBy
            fun a b => a.head? == b.head?
          let f ← groups.foldlM (fun f group => addTree fuel (group.map List.tail) f) f
          if groups.length = 1 then f.add 1 0 else f.addTransitions groups.length) f
        f.addBranch (filled.length + (chunks.length - 1))

end Footprint

/-! ## 4. Expressions -/

namespace Regex

open Footprint

/-- The octets of a text. -/
def text? : Regex → Option (List Nat)
  | literal text => some (text.flatMap octetsOf)
  | _ => none

/-- Adds the states of an expression; `rest` says that it is what remains of alternatives that a
branch has been added for. -/
def addTo (back : Bool) : Regex → Bool → Footprint → Option Footprint
  | empty, _, f => f.add 1 0
  | literal text, _, f => f.add (text.flatMap octetsOf).length 0
  | chars members, _, f => f.addSet back members
  | look _, _, f => f.add 1 0
  | group _ body, _, f =>
    if back then body.addTo back false f
    else f.add 1 0 >>= body.addTo back false >>= add 1 0
  | seq a b, _, f =>
    if back then b.addTo back false f >>= a.addTo back false
    else a.addTo back false f >>= b.addTo back false
  | alt a b, rest, f =>
    let branches := a :: b.alternatives
    let join (f : Footprint) := f.addBranch branches.length >>= add 1 0
    if rest then a.addTo back false f >>= b.addTo back true
    else
      match branches.mapM text?, b with
      | some texts, _ =>
        let texts := if back then texts.map List.reverse else texts
        f.add 1 0 >>= addTree ((texts.map List.length).foldl max 0 + 1) texts
      | none, alt c d =>
        a.addTo back false f >>= c.addTo back false >>= join >>= d.addTo back true
      | none, b => a.addTo back false f >>= b.addTo back false >>= join
  | loop body least most _, _, f =>
    let copies := addCopies (body.addTo back false)
    match least, most with
    | 0, some 1 => f.addBranch 2 >>= body.addTo back false >>= add 1 0
    | 0, none =>
      if body.isFilled then f.addBranch 2 >>= body.addTo back false
      else body.addTo back false f >>= addBranch 2 >>= addBranch 2 >>= add 1 0
    | least, none => copies least f >>= addBranch 2
    | least, some most => do
      let f ← if least = 0 then f.add 1 0 else copies least f
      if least = most then some f
      else
        addCopies (fun f => f.addBranch 2 >>= body.addTo back false) (most - least) (← f.add 1 0)

/-- The states that pass over what is before a match, unless it begins where the text begins. -/
def addApproach (anchored : Bool) (f : Footprint) : Option Footprint :=
  if anchored then f.add 1 0 else f.addBranch 2 >>= add 1 0 >>= addTransitions 1

/-- Whether an expression is a list of so many texts that they are looked up without automata. -/
def isWordList (r : Regex) : Bool :=
  3000 ≤ r.alternatives.length && (r.alternatives.mapM text?).isSome

/-- The automaton that reads forward, which also notes where a match and its groups begin and
end. -/
def forward? (r : Regex) : Option Footprint :=
  addApproach (r.startsAt .textStart) {} >>= add 1 0 >>= r.addTo false false >>= add 2 0

/-- The automaton that reads backward. -/
def backward? (r : Regex) : Option Footprint :=
  addApproach (r.endsAt .textEnd) {} >>= r.addTo true false >>= add 1 0

/-- Whether both automata of an expression find room, unless none are needed. -/
def fits (r : Regex) : Bool := r.isWordList || (r.backward?.isSome && r.forward?.isSome)

example : (literal ['a']).addTo false false {} = some ⟨1, 32⟩ := by cbv
example : (loop (literal ['a']) 2 (some 3) false).addTo false false {} = some ⟨5, 168⟩ := by cbv

end Regex

end Dossier
