/-
# Sets in brackets

A set is written as members between brackets: characters, ranges, classes and other sets.  Sets
are also combined: `&&` takes what is in both, `--` what is in the first only and `~~` what is in
one of the two only, from the left to the right.

With a set goes the depth to which its parts are nested: a set lies deeper than its members, several
members lie deeper than a single one, and what is combined lies deeper again.
-/
import Dossier.Regex.Escaped

namespace Dossier

namespace Regex

/-! ## 1. Combining -/

/-- How two sets are combined. -/
inductive SetOperator where
  | intersection
  | difference
  | symmetricDifference
deriving DecidableEq

def SetOperator.apply (left right : CharSet) : SetOperator → CharSet
  | intersection => left.intersection right
  | difference => left.difference right
  | symmetricDifference => left.symmetricDifference right

/-- A set that has been read, and how deep its parts are nested. -/
structure Nested where
  set : CharSet
  depth : Nat

/-- The members that have been read, newest first, and how deep the deepest is nested. -/
structure Members where
  sets : List CharSet := []
  depth : Nat := 0

namespace Members

def add (m : Members) (set : CharSet) (depth : Nat) : Members :=
  ⟨set :: m.sets, max depth m.depth⟩

def toNested (m : Members) : Nested :=
  ⟨.unionAll m.sets, if 2 ≤ m.sets.length then m.depth + 1 else m.depth⟩

end Members

/-- What is on the left of the set that is being read. -/
abbrev Pending := Option (SetOperator × Nested)

/-- Combines a set with what is on its left. -/
def combine (o : Options) (pending : Pending) (right : Nested) : Nested :=
  match pending with
  | none => right
  | some (op, left) =>
    ⟨op.apply (o.fold left.set) (o.fold right.set), max left.depth right.depth + 1⟩

/-! ## 2. Members -/

/-- What begins a member. -/
def readMember (o : Options) : List Char → Option (Escaped × List Char)
  | [] => none
  | '\\' :: s => readEscape o s
  | c :: s => some (.char c false, s)

/-- Whether a character may be a member: with Unicode off, it has to be ASCII. -/
def Options.admits (o : Options) (c : Char) : Bool := o.unicode || c.toNat < 128

/-- The set of what is no range. -/
def memberSet (o : Options) : Escaped → Option CharSet
  | .char c _ => if o.admits c then some (.single c) else none
  | .set members => some members
  | .look _ => none

/-- Whether a hyphen makes no range, because a closing bracket or a hyphen comes next.  Blanks
before it are passed over; of a comment, its first character that is not blank counts. -/
def Options.standsAlone (o : Options) (s : List Char) : Bool :=
  let next := if !o.extended then s
    else match s.dropWhile isBlank with
      | '#' :: comment => comment.dropWhile isBlank
      | s => s
  next.head? == some ']' || next.head? == some '-'

/-- A character, a class or a range. -/
def readRange (o : Options) (s : List Char) : Option (CharSet × List Char) := do
  let (first, s) ← readMember o s
  match o.skip s with
  | [] => none
  | '-' :: rest =>
    if o.standsAlone rest then (memberSet o first).map (·, '-' :: rest)
    else
      let (last, rest) ← readMember o (o.skip rest)
      match first, last with
      | .char a _, .char b _ =>
        if o.admits a && o.admits b && a.toNat ≤ b.toNat then
          some (.range a.toNat b.toNat, rest)
        else none
      | _, _ => none
  | rest => (memberSet o first).map (·, rest)

/-- A class by its name between `[:` and `:]`, after the bracket. -/
def readBracketClass (o : Options) (s : List Char) : Option (Option CharSet × List Char) :=
  match s with
  | ':' :: s =>
    let (negated, s) := match s with
      | '^' :: s => (true, s)
      | s => (false, s)
    match s.dropWhile (· != ':') with
    | ':' :: ']' :: rest =>
      (CharSet.bracketClass? (String.ofList (s.takeWhile (· != ':')))).map fun members =>
        (o.negate negated (o.fold members), rest)
    | _ => none
  | _ => none

/-- Hyphens at the start of a set stand for themselves, and so does a closing bracket there. -/
def readLeading (o : Options) : Nat → Members → List Char → Members × List Char
  | 0, m, s => (m, s)
  | fuel + 1, m, s =>
    match s with
    | '-' :: s => readLeading o fuel (m.add (.single '-') 0) (o.skip s)
    | ']' :: rest => if m.sets.isEmpty then (m.add (.single ']') 0, o.skip rest) else (m, s)
    | _ => (m, s)

/-! ## 3. Sets -/

mutual

/-- A set after its opening bracket. -/
def readSet (o : Options) : Nat → List Char → Option (Nested × List Char)
  | 0, _ => none
  | fuel + 1, s => do
    let (negated, s) := match o.skip s with
      | '^' :: s => (true, o.skip s)
      | s => (false, s)
    let (members, s) := readLeading o s.length {} s
    let (inner, rest) ← readMembers o fuel none members s
    let set ← o.negate negated (o.fold inner.set)
    some (⟨set, inner.depth + 1⟩, rest)

/-- The members of a set up to its closing bracket, after those read before. -/
def readMembers (o : Options) : Nat → Pending → Members → List Char →
    Option (Nested × List Char)
  | 0, _, _, _ => none
  | fuel + 1, pending, members, s =>
    let operate (op : SetOperator) (s : List Char) :=
      readMembers o fuel (some (op, combine o pending members.toNested)) {} s
    match o.skip s with
    | [] => none
    | ']' :: rest => some (combine o pending members.toNested, rest)
    | '[' :: s =>
      match readBracketClass o s with
      | some (more, rest) => do readMembers o fuel pending (members.add (← more) 0) rest
      | none => do
        let (more, rest) ← readSet o fuel s
        readMembers o fuel pending (members.add more.set more.depth) rest
    | '&' :: '&' :: s => operate .intersection s
    | '-' :: '-' :: s => operate .difference s
    | '~' :: '~' :: s => operate .symmetricDifference s
    | s => do
      let (more, rest) ← readRange o s
      readMembers o fuel pending (members.add more 0) rest

end

end Regex

end Dossier
