/-
# From conditions to queries

A query is a document: a field with a document of operators, or `$and` or `$or` with an array of
queries.  Each comparison becomes one field, each connective a pair of queries, and a negation
wraps the value of every key of its query in `$not`.

Only an operand without a field name has no query (`Condition.compile`).  `compileFilter` reads a
filter text first; a blank one becomes the empty query, which holds of every document.
-/
import Dossier.Condition.Basic
import Dossier.Filter.Reader
import Dossier.Query.Basic
import Dossier.Regex.Escape

namespace Dossier

/-- The pattern by which a text is looked for: anywhere, at the start or at the end. -/
def Operator.pattern (op : Operator) (text : String) : String :=
  let escaped := Regex.escape text.toList
  String.ofList (match op with
    | .sw => '^' :: escaped
    | .ew => escaped ++ ['$']
    | _ => escaped)

/-- The document of operators that a comparison becomes. -/
def Operator.query (op : Operator) (value : Literal) : Document :=
  match op with
  | .eq => [("$eq", value.toBson)]
  | .ne => [("$ne", value.toBson)]
  | .gt => [("$gt", value.toBson)]
  | .ge => [("$gte", value.toBson)]
  | .lt => [("$lt", value.toBson)]
  | .le => [("$lte", value.toBson)]
  | .pr => [("$exists", .boolean true)]
  | .co | .sw | .ew => [("$regex", .string (op.pattern value.toText))]

/-- Negates each key of a query by itself. -/
def negateKeys (query : Document) : Document :=
  query.map fun (key, value) => (key, .document [("$not", value)])

/-- The query of a condition. -/
def Condition.compile : Condition → Except CompileError Document
  | .operand field op value =>
    if field = "" then .error (.unsupportedCondition .emptyAttribute)
    else .ok [(field, .document (op.query value))]
  | .logic connective left right => do
    let left ← left.compile
    let right ← right.compile
    return [(connective.key, .array [.document left, .document right])]
  | .not inner => do return negateKeys (← inner.compile)
  | .group inner => inner.compile

/-- The query of a filter text. -/
def compileFilter (filter : String) : Except StoreError Document :=
  if filter.toList.all isBlank then .ok []
  else
    match parseFilter filter with
    | .error e => .error (.filter e)
    | .ok condition =>
      match condition.compile with
      | .error e => .error (.compile e)
      | .ok query => .ok query

end Dossier
