/-
# Reading filter texts

A filter is built from comparisons such as `age ge 18` and `email pr` with `not`, `and`, `or` and
parentheses; `and` binds tighter than `or`, and a chain folds to the left.

Readers try alternatives in order, and a failed attempt to go on leaves the text where it was.  So
a reading that fails has stopped somewhere, and `Outcome.stopped` says where and whether an
operator without meaning was the cause; `parseFilter` reports both.
-/
import Dossier.Filter.Token

namespace Dossier

namespace Filter

/-- A condition and the text after it, or the text at which reading stopped. -/
inductive Outcome where
  | read (condition : Condition) (rest : List Char)
  | stopped (rest : List Char) (cause : Option CompileError)
deriving DecidableEq

abbrev Reader := List Char → Outcome

/-! ## 1. Comparisons -/

/-- The operator of a comparison and what follows it.  It takes all letters there are. -/
def readOperand : Reader := fun s =>
  match readPath s with
  | none => .stopped s none
  | some (path, afterPath) =>
    let s := skipSpace afterPath
    if s = afterPath then .stopped s none
    else
      match s.takeWhile Char.isAlpha with
      | [] => .stopped s none
      | letters =>
        match Operator.parse (String.ofList letters) with
        | .error e => .stopped s (some e)
        | .ok .pr => .read (.present path) (s.dropWhile Char.isAlpha)
        | .ok op =>
          let s := skipSpace (s.dropWhile Char.isAlpha)
          match readValue s with
          | none => .stopped s none
          | some (value, rest) => .read (.operand path op value) rest

/-! ## 2. Chains -/

/-- Goes on with `word item` as long as it can, folding to the left. -/
def readChain (word : List Char) (connective : Connective) (item : Reader) :
    Nat → Condition → List Char → Condition × List Char
  | 0, left, s => (left, s)
  | fuel + 1, left, s =>
    match readKeyword word (skipSpace s) with
    | none => (left, s)
    | some afterWord =>
      match item (skipSpace afterWord) with
      | .stopped _ _ => (left, s)
      | .read right rest => readChain word connective item fuel (.logic connective left right) rest

/-- One item, or several with a word between them. -/
def readJoined (word : List Char) (connective : Connective) (item : Reader) : Reader := fun s =>
  match item s with
  | .stopped rest cause => .stopped rest cause
  | .read left rest =>
    let (condition, rest) := readChain word connective item rest.length left rest
    .read condition rest

/-- A whole expression over a reader of negations and terms, with blanks around it. -/
def readExpression (unary : Reader) : Reader := fun s =>
  match readJoined "or".toList .or (readJoined "and".toList .and unary) (skipSpace s) with
  | .stopped rest cause => .stopped rest cause
  | .read condition rest => .read condition (skipSpace rest)

/-! ## 3. Negations and parentheses -/

/-- `not` and what it negates. -/
def readNegation (unary : Reader) (s : List Char) : Option (Condition × List Char) := do
  let s ← readKeyword "not".toList s
  match unary (skipSpace s) with
  | .read inner rest => some (.not inner, rest)
  | .stopped _ _ => none

/-- An expression in parentheses. -/
def readGroup (unary : Reader) : List Char → Option (Condition × List Char)
  | '(' :: s =>
    match readExpression unary (skipSpace s) with
    | .read inner rest => (readChar ')' (skipSpace rest)).map (.group inner, ·)
    | .stopped _ _ => none
  | _ => none

/-- A negation, a group or a comparison, of a nesting below the given depth. -/
def readUnary : Nat → Reader
  | 0 => fun s => .stopped s none
  | depth + 1 => fun s =>
    match readNegation (readUnary depth) s <|> readGroup (readUnary depth) s with
    | some (condition, rest) => .read condition rest
    | none => readOperand s

/-! ## 4. Whole filters -/

/-- Reads all of a text.  Every level of nesting takes a character at least, so the length of the
text bounds the depth. -/
def readAll (s : List Char) : Outcome :=
  match readExpression (readUnary (s.length + 1)) s with
  | .read condition [] => .read condition []
  | .read _ rest => .stopped rest none
  | .stopped rest cause => .stopped rest cause

end Filter

/-- The condition that a filter text writes. -/
def parseFilter (filter : String) : Except FilterError Condition :=
  match Filter.readAll filter.toList with
  | .read condition _ => .ok condition
  | .stopped rest cause =>
    .error (.stoppedAt filter (filter.toList.length - rest.length) cause)

end Dossier
