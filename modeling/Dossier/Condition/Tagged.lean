/-
# Conditions as tagged JSON

A choice is an object whose one key names the alternative: `operand`, `logic`, `not` or `grouping`
for conditions, `bool`, `int`, `double`, `string` or `timestamp` for literals.  An alternative
without content is its name alone, or the name over null.  A body with named parts may also be an
array of the parts in order.  Tokens are lower case, and instants are RFC 3339 text.

`Condition.toJson` writes the form with names, and `Condition.ofJson?` reads both.
-/
import Dossier.Condition.Basic
import Dossier.Double.Rounding
import Dossier.Json.Basic

namespace Dossier

namespace Json

/-- A value that an object holds is smaller than its members. -/
theorem sizeOf_lt_of_member? {members : List (String × Json)} {key : String} {v : Json}
    (h : member? members key = some v) : sizeOf v < sizeOf members := by
  induction members with
  | nil => simp [member?] at h
  | cons entry rest ih =>
    obtain ⟨k, w⟩ := entry
    by_cases hk : k = key
    · rw [member?, if_pos hk] at h
      cases h
      simp only [List.cons.sizeOf_spec, Prod.mk.sizeOf_spec]
      omega
    · rw [member?, if_neg hk] at h
      have := ih h
      simp only [List.cons.sizeOf_spec]
      omega

/-- The name of an alternative without content. -/
def asName? : Json → Option String
  | .string name => some name
  | .object [(name, .null)] => some name
  | _ => none

end Json

/-! ## 1. Operators and literals -/

def Operator.ofJson? (j : Json) : Option Operator := do
  let name ← j.asName?
  Operator.all.find? fun op => op.token == name

def Connective.ofJson? (j : Json) : Option Connective := do
  let name ← j.asName?
  [Connective.and, .or].find? fun c => c.token == name

namespace Literal

/-- A number as a double. -/
def readDouble : Json → Option Double
  | .whole n => some (Double.ofInt n)
  | .double x => some x
  | _ => none

def ofJson? (j : Json) : Option Literal :=
  if j.asName? = some "null" then some .null
  else
    match j with
    | .object [("bool", v)] => v.asBool?.map .bool
    | .object [("int", v)] =>
      (v.asWhole? Int64.minValue.toInt Int64.maxValue.toInt).map (.int ∘ Int64.ofInt)
    | .object [("double", v)] => (readDouble v).map .double
    | .object [("string", v)] => v.asString?.map .string
    | .object [("timestamp", v)] => (v.asString?.bind Instant.parseLoosely?).map .instant
    | _ => none

def toJson : Literal → Json
  | .null => .string "null"
  | .bool b => .object [("bool", .bool b)]
  | .int n => .object [("int", .whole n.toInt)]
  | .double x => .object [("double", if x.isNaN || x.isInfinite then .null else .double x)]
  | .string s => .object [("string", .string s)]
  | .instant t => .object [("timestamp", .string (t.toText .fewest))]

end Literal

/-! ## 2. Conditions -/

namespace Condition

/-- The parts of an operand. -/
def ofParts? (attr op value : Json) : Option Condition := do
  let field ← attr.asString?
  let op ← Operator.ofJson? op
  let value ← Literal.ofJson? value
  some (.operand field op value)

def ofJson? : Json → Option Condition
  | .object [("operand", .array [attr, op, value])] => ofParts? attr op value
  | .object [("operand", .object members)] => do
    let attr ← Json.member? members "attribute"
    let op ← Json.member? members "operator"
    let value ← Json.member? members "value"
    ofParts? attr op value
  | .object [("logic", .array [connective, left, right])] => do
    let connective ← Connective.ofJson? connective
    let left ← ofJson? left
    let right ← ofJson? right
    some (.logic connective left right)
  | .object [("logic", .object members)] => do
    let connective ← (Json.member? members "logical").bind Connective.ofJson?
    match hl : Json.member? members "left", hr : Json.member? members "right" with
    | some left, some right =>
      have := Json.sizeOf_lt_of_member? hl
      have := Json.sizeOf_lt_of_member? hr
      let left ← ofJson? left
      let right ← ofJson? right
      some (.logic connective left right)
    | _, _ => none
  | .object [("not", inner)] => (ofJson? inner).map .not
  | .object [("grouping", inner)] => (ofJson? inner).map .group
  | _ => none
termination_by j => sizeOf j

-- The reader recurses on the size of the value, so its simplest shapes are unfolded here.

theorem ofJson?_not (inner : Json) :
    ofJson? (.object [("not", inner)]) = (ofJson? inner).map .not := by
  rw [ofJson?]

theorem ofJson?_grouping (inner : Json) :
    ofJson? (.object [("grouping", inner)]) = (ofJson? inner).map .group := by
  rw [ofJson?]

def toJson : Condition → Json
  | .operand field op value =>
    .object [("operand", .object [("attribute", .string field), ("operator", .string op.token),
      ("value", value.toJson)])]
  | .logic connective left right =>
    .object [("logic", .object [("logical", .string connective.token), ("left", left.toJson),
      ("right", right.toJson)])]
  | .not inner => .object [("not", inner.toJson)]
  | .group inner => .object [("grouping", inner.toJson)]

end Condition

end Dossier
