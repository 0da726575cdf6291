/-
# Evaluating queries

`Query.holds` says whether a document satisfies a query.  Keys are looked at in order and the
first that fails decides, so a malformed key after it does not come to light; a malformed key
before it is an error.

A field is compared with a value, or with a document of operators if all keys of that document
begin with a dollar sign.  `$and` and `$or` take an array of queries, or a document of `$not` alone,
which negates the whole clause.
-/
import Dossier.Error
import Dossier.Query.Basic
import Dossier.Query.Path
import Dossier.Query.Value
import Dossier.Regex.Image
import Dossier.Regex.Reader

namespace Dossier

namespace Query

/-- What evaluation gives: an answer, or a fault of the query. -/
abbrev Verdict := Except DocumentFault Bool

/-! ## 1. Single operators -/

/-- Equality of a field, which may be missing, with a value.  A missing field equals null, and an
array equals a value also if one of its items does, unless the value is an array too. -/
def equals (field : Option Bson) (operand : Bson) : Bool :=
  match field with
  | none => operand.agrees .null
  | some (.array items) =>
    match operand with
    | .array _ => Bson.agrees (.array items) operand
    | _ => items.any fun item => item.agrees operand
  | some value => value.agrees operand

/-- The order of a field and a value; a missing field has none. -/
def order (field : Option Bson) (operand : Bson) : Option Ordering :=
  field.bind fun value => value.compare? operand

/-- Whether a string, or some string of an array, has a match. -/
def matchesRegex (field : Option Bson) (r : Regex) : Bool :=
  match field with
  | some (.string s) => r.isMatch s.toList
  | some (.array items) => items.any fun
    | .string s => r.isMatch s.toList
    | _ => false
  | _ => false

/-- Matches a field against a pattern.  Of the options only `i` and `m` count.  The pattern is read
even if the field is no string. -/
def matchesText (field : Option Bson) (pattern options : String) : Verdict :=
  match Regex.parse? pattern (options.toList.contains 'i') (options.toList.contains 'm') with
  | some r => .ok (matchesRegex field r)
  | none => .error (.invalidPattern pattern)

/-- Matches a field against a pattern given as a string, with options beside it, or as a regular
expression with its own. -/
def matchesPattern (field : Option Bson) (pattern : Bson) (options : String) : Verdict :=
  match pattern with
  | .string p => matchesText field p options
  | .regex p own => matchesText field p own
  | _ => .error .patternExpected

/-- The options beside a pattern. -/
def patternOptions (operators : Document) : String :=
  ((operators.get? "$options").bind Bson.asString?).getD ""

/-- Whether the order is one of two. -/
def isOrder (found : Option Ordering) (first second : Ordering) : Bool :=
  found == some first || found == some second

/-- One operator on a field.  The options are those beside the operator; a document under `$not` is
left to `holdsOperator`. -/
def holdsPlain (field : Option Bson) (options op : String) (operand : Bson) : Verdict :=
  match op with
  | "$eq" => .ok (equals field operand)
  | "$ne" => .ok (!equals field operand)
  | "$gt" => .ok (order field operand == some .gt)
  | "$gte" => .ok (isOrder (order field operand) .gt .eq)
  | "$lt" => .ok (order field operand == some .lt)
  | "$lte" => .ok (isOrder (order field operand) .lt .eq)
  | "$exists" => .ok (field.isSome == operand.isTruthy)
  | "$regex" => matchesPattern field operand options
  | "$options" => .ok true
  | "$not" =>
    match operand with
    | .regex pattern own => (matchesText field pattern own).map (!·)
    | _ => .error .operatorDocumentExpected
  | _ => .error (.queryOperator op)

/-! ## 2. Documents of operators -/

mutual

/-- One operator on a field, or the negation of a document of operators. -/
def holdsOperator (field : Option Bson) (options op : String) : Bson → Verdict
  | .document inner =>
    if op = "$not" then (holdsOperators field (patternOptions inner) inner).map (!·)
    else holdsPlain field options op (.document inner)
  | operand => holdsPlain field options op operand

/-- All operators on a field, up to the first that does not hold. -/
def holdsOperators (field : Option Bson) (options : String) : List (String × Bson) → Verdict
  | [] => .ok true
  | (op, operand) :: rest => do
    if ← holdsOperator field options op operand then holdsOperators field options rest
    else return false

end

/-! ## 3. Queries -/

/-- The condition on a field: operators, or a value that it equals. -/
def holdsField (field : Option Bson) (condition : Bson) : Verdict :=
  match condition with
  | .document operators =>
    if (Document.keys operators).all isOperatorKey then
      holdsOperators field (patternOptions operators) operators
    else .ok (equals field condition)
  | _ => .ok (equals field condition)

mutual

/-- All keys of a query, up to the first that does not hold. -/
def holds (d : Document) : List (String × Bson) → Verdict
  | [] => .ok true
  | (key, condition) :: rest => do
    if ← holdsKey d key condition then holds d rest else return false

def holdsKey (d : Document) (key : String) (condition : Bson) : Verdict :=
  match Connective.ofKey? key with
  | some connective => holdsClause d connective condition
  | none =>
    if isOperatorKey key then .error (.topLevelOperator key)
    else holdsField (Path.resolve (Path.segments key) d) condition

/-- A clause: queries joined by a connective, or their negation. -/
def holdsClause (d : Document) (connective : Connective) : Bson → Verdict
  | .array queries => holdsQueries d connective queries
  | .document [("$not", inner)] => (holdsClause d connective inner).map (!·)
  | _ => .error (.clausesExpected connective.key)

/-- Queries joined by a connective, up to the first that decides. -/
def holdsQueries (d : Document) (connective : Connective) : List Bson → Verdict
  | [] => .ok (connective == .and)
  | .document query :: rest => do
    let held ← holds d query
    if held == (connective == .or) then return held else holdsQueries d connective rest
  | _ :: _ => .error (.clausesExpected connective.key)

end

/-- The items whose document satisfies a query, in order.  All are looked at. -/
def select {α : Type} (document : α → Document) (query : Document) :
    List α → Except DocumentFault (List α)
  | [] => .ok []
  | item :: rest => do
    let held ← holds (document item) query
    let more ← select document query rest
    return if held then item :: more else more

/-- The place of the first document that satisfies a query; those after it are not looked at. -/
def findFirst (query : Document) : List Document → Except DocumentFault (Option Nat)
  | [] => .ok none
  | d :: rest => do
    if ← holds d query then return some 0
    else return (← findFirst query rest).map (· + 1)

end Query

end Dossier
