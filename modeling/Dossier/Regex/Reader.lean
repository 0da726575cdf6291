/-
# Reading patterns

`Regex.parse?` reads a pattern under two options, for letters of either case and for lines.
Groups in progress are kept as a list of levels.  A pattern without meaning has no expression;
look-around and references to groups are without meaning, and so is, when Unicode is off, what
could match a part of a character.  Nor has a pattern an expression whose parts are nested too
deep or whose expression takes too much room.

A part lies deeper than the part that it repeats or encloses, several parts lie deeper than a
single one, and alternatives lie deeper again.
-/
import Dossier.Regex.Bracket
import Dossier.Regex.Escape
import Dossier.Regex.Footprint
import Dossier.Time.Rfc3339
import Dossier.Unicode.Later

namespace Dossier

namespace Regex

/-! ## 1. Groups in progress -/

/-- A part of a pattern: its expression, or none for a setting of options, which cannot be
repeated; and how deep its own parts are nested. -/
structure Part where
  regex : Option Regex
  depth : Nat

/-- A group in progress, or the whole pattern. -/
structure Level where
  /-- The alternatives that are complete, newest first. -/
  done : List (Regex × Nat) := []
  /-- The parts of the current alternative, newest first. -/
  parts : List Part := []
  /-- The options around the group. -/
  around : Options := {}
  /-- The number of the group, if what it matches is noted. -/
  number : Option Nat := none

namespace Level

def push (l : Level) (regex : Option Regex) (depth : Nat) : Level :=
  { l with parts := ⟨regex, depth⟩ :: l.parts }

/-- The expression of the current alternative and its depth. -/
def current (l : Level) : Regex × Nat :=
  let depth := (l.parts.map (·.depth)).foldl max 0
  (seqAll (l.parts.reverse.filterMap (·.regex)), if 2 ≤ l.parts.length then depth + 1 else depth)

def alternate (l : Level) : Level := { l with done := l.current :: l.done, parts := [] }

/-- The expression of all alternatives and its depth. -/
def contents (l : Level) : Regex × Nat :=
  match l.done with
  | [] => l.current
  | done =>
    let all := (l.current :: done).reverse
    (altAll (all.map (·.1)), (all.map (·.2)).foldl max 0 + 1)

end Level

/-- A pattern that has been read in part. -/
structure Progress where
  level : Level := {}
  outer : List Level := []
  options : Options := {}
  names : List (List Char) := []
  /-- How many groups are noted. -/
  groups : Nat := 0

namespace Progress

def push (p : Progress) (regex : Option Regex) (depth : Nat) : Progress :=
  { p with level := p.level.push regex depth }

/-- Opens a group under options. -/
def opened (p : Progress) (options : Options) (number : Option Nat) : Progress :=
  { p with level := { around := p.options, number }, outer := p.level :: p.outer, options }

/-- Opens a group whose match is noted. -/
def noted (p : Progress) : Progress :=
  { p.opened p.options (some (p.groups + 1)) with groups := p.groups + 1 }

/-- Closes the innermost group. -/
def close (p : Progress) : Option Progress :=
  match p.outer with
  | [] => none
  | outer :: rest =>
    let (regex, depth) := p.level.contents
    let regex := match p.level.number with
      | some number => group number regex
      | none => regex
    some { p with
      level := outer.push (some regex) (depth + 1), outer := rest, options := p.level.around }

/-- Repeats the last part. -/
def repeatLast (p : Progress) (least : Nat) (most : Option Nat) (lazy : Bool) : Option Progress :=
  match p.level.parts with
  | ⟨some r, depth⟩ :: parts =>
    let part : Part := ⟨some (repeated r least most (lazy != p.options.lazy)), depth + 1⟩
    some { p with level := { p.level with parts := part :: parts } }
  | _ => none

end Progress

/-! ## 2. Openings of groups -/

/-- Whether a character begins the name of a group. -/
def startsName (c : Char) : Bool :=
  c == '_' || CharProperty.alphabetic.members.contains c || laterAlphabetic.contains c

/-- Whether a character continues the name of a group. -/
def continuesName (c : Char) : Bool :=
  startsName c || c == '.' || c == '[' || c == ']' || categoryNd.members.contains c ||
    categoryNl.members.contains c || categoryNo.members.contains c || laterNumbers.contains c

/-- A name of a group, up to the angle bracket after it. -/
def readName (s : List Char) : Option (List Char × List Char) :=
  match s.takeWhile (· != '>'), s.dropWhile (· != '>') with
  | c :: name, _ :: rest =>
    if startsName c && name.all continuesName then some (c :: name, rest) else none
  | _, _ => none

/-- Opens a group, or sets options, after the opening parenthesis. -/
def readOpening (p : Progress) (s : List Char) : Option (Progress × List Char) :=
  let named (s : List Char) : Option (Progress × List Char) := do
    let (name, rest) ← readName s
    if p.names.contains name then none
    else some ({ p.noted with names := name :: p.names }, rest)
  match p.options.skip s with
  | '?' :: '=' :: _ | '?' :: '!' :: _ | '?' :: '<' :: '=' :: _ | '?' :: '<' :: '!' :: _ => none
  | '?' :: 'P' :: '<' :: s | '?' :: '<' :: s => named s
  | '?' :: s => do
    let (options, ending, rest, any) ← p.options.read [] s
    if ending = ':' then some (p.opened options none, rest)
    else if any then some ({ p.push none 0 with options }, rest)
    else none
  | s => some (p.noted, s)

/-! ## 3. Repetitions -/

/-- Whether a repetition is marked as lazy. -/
def readLazy : List Char → Bool × List Char
  | '?' :: s => (true, s)
  | s => (false, s)

/-- The digits of a count, with what is passed over after each. -/
def readCountDigits (o : Options) : Nat → List Char → List Char → List Char × List Char
  | 0, digits, s => (digits.reverse, s)
  | fuel + 1, digits, s =>
    match s with
    | [] => (digits.reverse, [])
    | c :: rest =>
      if c.isDigit then readCountDigits o fuel (c :: digits) (o.skip rest) else (digits.reverse, s)

/-- A count of 32 bits, with blanks around it. -/
def readCount (o : Options) (s : List Char) : Option (Nat × List Char) :=
  let (digits, rest) := readCountDigits o s.length [] (s.dropWhile isBlank)
  let n := digitsValue digits
  if digits.isEmpty || UInt32.size ≤ n then none else some (n, o.skip (rest.dropWhile isBlank))

/-- The counts of a repetition, after the opening brace. -/
def readCounts (o : Options) (s : List Char) : Option (Nat × Option Nat × List Char) := do
  let (least, s) ← readCount o (o.skip s)
  let (most, s) ← match s with
    | ',' :: s =>
      match o.skip s with
      | '\x7d' :: s => some (none, '\x7d' :: s)
      | s => (readCount o s).map fun (n, s) => (some n, s)
    | s => some (some least, s)
  let s ← readChar '\x7d' s
  if most.all (least ≤ ·) then some (least, most, o.skip s) else none

/-! ## 4. Patterns -/

/-- The expression of a character outside brackets. -/
def charRegex (o : Options) (c : Char) (octet : Bool) : Option Regex :=
  if !o.unicode && octet && 128 ≤ c.toNat then none
  else if o.caseless then some (ofSet (o.fold (.single c)))
  else some (literal [c])

/-- Reads one part of a pattern. -/
def readPart (p : Progress) : List Char → Option (Progress × List Char)
  | [] => none
  | c :: s =>
    let pushed (r : Option Regex) (rest : List Char) : Option (Progress × List Char) :=
      r.map fun r => (p.push (some r) 0, rest)
    let repeated (least : Nat) (most : Option Nat) (s : List Char) :
        Option (Progress × List Char) :=
      let (lazy, rest) := readLazy s
      (p.repeatLast least most lazy).map (·, rest)
    match c with
    | '(' => readOpening p s
    | ')' => p.close.map (·, s)
    | '|' => some ({ p with level := p.level.alternate }, s)
    | '[' => do
      let (members, rest) ← readSet p.options (2 * s.length + 2) s
      some (p.push (some (ofSet members.set)) members.depth, rest)
    | '?' => repeated 0 (some 1) s
    | '*' => repeated 0 none s
    | '+' => repeated 1 none s
    | '\x7b' => do
      let (least, most, rest) ← readCounts p.options s
      repeated least most rest
    | '\\' => do
      let (escaped, rest) ← readEscape p.options s
      match escaped with
      | .char d octet => pushed (charRegex p.options d octet) rest
      | .set members => pushed (some (ofSet members)) rest
      | .look assertion => pushed (some (look assertion)) rest
    | '.' => pushed (p.options.dot.map ofSet) s
    | '^' => pushed (some (look p.options.start)) s
    | '$' => pushed (some (look p.options.stop)) s
    | c => pushed (charRegex p.options c false) s

/-- Reads parts to the end of a pattern.  Each takes a character at least. -/
def readParts : Nat → Progress → List Char → Option (Regex × Nat)
  | 0, _, _ => none
  | fuel + 1, p, s =>
    match p.options.skip s with
    | [] => if p.outer.isEmpty then some p.level.contents else none
    | s => do
      let (p, rest) ← readPart p s
      readParts fuel p rest

/-- The expression of a pattern, with options for letters of either case and for lines. -/
def parse? (pattern : String) (caseless multiline : Bool) : Option Regex := do
  let s := pattern.toList
  let (r, depth) ← readParts (s.length + 1) { options := { caseless, multiline } } s
  if depth ≤ depthLimit && r.fits then some r else none

end Regex

end Dossier
