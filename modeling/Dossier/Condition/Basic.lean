/-
# Filter conditions

A condition is a boolean tree over the fields of a document: comparisons of a field with a literal
at the leaves, joined by `and`, `or`, `not`, and grouping, which changes nothing.

Every operator has one token, read without regard to ASCII case; `Operator.ofToken?_token` and
`Connective.ofToken?_token` say that a token names its operator.
-/
import Dossier.Bson.Basic
import Dossier.Double.Shortest
import Dossier.Error
import Dossier.Time.Rfc3339

namespace Dossier

/-- Whether two texts differ at most in the case of ASCII letters. -/
def equalIgnoringCase (s t : List Char) : Bool := s.map Char.toLower == t.map Char.toLower

/-! ## 1. Operators -/

/-- How a field is compared with a literal. -/
inductive Operator where
  | eq
  | ne
  /-- Contains. -/
  | co
  /-- Starts with. -/
  | sw
  /-- Ends with. -/
  | ew
  /-- Is present; the literal does not count. -/
  | pr
  | gt
  | ge
  | lt
  | le
deriving DecidableEq, Inhabited

namespace Operator

def all : List Operator := [eq, ne, co, sw, ew, pr, gt, ge, lt, le]

def token : Operator → String
  | eq => "eq"
  | ne => "ne"
  | co => "co"
  | sw => "sw"
  | ew => "ew"
  | pr => "pr"
  | gt => "gt"
  | ge => "ge"
  | lt => "lt"
  | le => "le"

def ofToken? (token : String) : Option Operator :=
  all.find? fun op => equalIgnoringCase op.token.toList token.toList

def parse (token : String) : Except CompileError Operator :=
  match ofToken? token with
  | some op => .ok op
  | none => .error (.unsupportedOperator token)

theorem ofToken?_token (op : Operator) : ofToken? op.token = some op := by
  cases op <;> decide

end Operator

/-- How two conditions are joined. -/
inductive Connective where
  | and
  | or
deriving DecidableEq, Inhabited

namespace Connective

def token : Connective → String
  | .and => "and"
  | .or => "or"

def ofToken? (token : String) : Option Connective :=
  [.and, .or].find? fun c => equalIgnoringCase c.token.toList token.toList

def parse (token : String) : Except CompileError Connective :=
  match ofToken? token with
  | some c => .ok c
  | none => .error (.unsupportedLogical token)

theorem ofToken?_token (c : Connective) : ofToken? c.token = some c := by
  cases c <;> decide

end Connective

/-! ## 2. Literals -/

/-- A value that a field is compared with. -/
inductive Literal where
  | null
  | bool (value : Bool)
  | int (value : Int64)
  | double (value : Double)
  | string (value : String)
  | instant (value : Instant)
deriving DecidableEq, Inhabited

namespace Literal

/-- The literal as text: a string as it is, an instant to the millisecond. -/
def toText : Literal → String
  | .null => "null"
  | .bool b => if b then "true" else "false"
  | .int n => toString n.toInt
  | .double x => x.toText
  | .string s => s
  | .instant t => t.toText .millis

/-- The literal as a stored value; an instant loses what is finer than a millisecond. -/
def toBson : Literal → Bson
  | .null => .null
  | .bool b => .boolean b
  | .int n => .int64 n
  | .double x => .double x
  | .string s => .string s
  | .instant t => .date (Int64.ofInt t.toMillis)

/-- The literal that a stored value is; integers of both widths are the same kind of literal. -/
def ofBson : Bson → Except CompileError Literal
  | .null => .ok .null
  | .boolean b => .ok (.bool b)
  | .int32 n => .ok (.int n.toInt64)
  | .int64 n => .ok (.int n)
  | .double x => .ok (.double x)
  | .string s => .ok (.string s)
  | .date millis => .ok (.instant (Instant.ofMillis millis.toInt))
  | other => .error (.unsupportedCondition (.literalType other.elementType))

end Literal

/-! ## 3. Conditions -/

inductive Condition where
  | operand (field : String) (operator : Operator) (value : Literal)
  | logic (connective : Connective) (left right : Condition)
  | not (inner : Condition)
  /-- A condition in parentheses. -/
  | group (inner : Condition)
deriving DecidableEq, Inhabited

namespace Condition

/-- The field is there. -/
def present (field : String) : Condition := .operand field .pr .null

end Condition

end Dossier
