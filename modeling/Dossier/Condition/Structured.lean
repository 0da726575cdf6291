/-
# Conditions as documents

A condition travels as a document of one key: `operand` with `attribute`, `operator` and `value`,
`logic` with `logical`, `left` and `right`, or `not` and `group` with a condition inside.  Further
keys inside the body of an operand or a logic are passed over, and an operand without a value has
the value null.

`Condition.toDocument` writes this form and `Condition.ofDocument` reads it.
-/
import Dossier.Condition.Basic

namespace Dossier

namespace Condition

/-- The condition as a document. -/
def toDocument : Condition → Document
  | .operand field operator value =>
    [("operand", .document [("attribute", .string field),
      ("operator", .string operator.token), ("value", value.toBson)])]
  | .logic connective left right =>
    [("logic", .document [("logical", .string connective.token),
      ("left", .document left.toDocument), ("right", .document right.toDocument)])]
  | .not inner => [("not", .document inner.toDocument)]
  | .group inner => [("group", .document inner.toDocument)]

def fault (f : ConditionFault) : CompileError := .unsupportedCondition f

/-- The text that a part of a condition is. -/
def textPart (kind part : String) (body : Document) : Except CompileError String :=
  match (body.get? part).bind Bson.asString? with
  | some s => .ok s
  | none => .error (fault (.missingPart kind part))

/-- A comparison from the body of an operand. -/
def ofOperandBody (body : Document) : Except CompileError Condition := do
  let field ← textPart "operand" "attribute" body
  let operator ← Operator.parse (← textPart "operand" "operator" body)
  let value ← match body.get? "value" with
    | some value => Literal.ofBson value
    | none => pure .null
  return .operand field operator value

/-- The condition that a document writes. -/
def ofDocument : Document → Except CompileError Condition
  | [("operand", body)] =>
    match body with
    | .document fields => ofOperandBody fields
    | other => .error (fault (.notADocument "operand" other.elementType))
  | [("logic", body)] =>
    match body with
    | .document fields => do
      let connective ← Connective.parse (← textPart "logic" "logical" fields)
      match hl : Document.get? fields "left", hr : Document.get? fields "right" with
      | none, _ => .error (fault (.missingPart "logic" "left"))
      | some _, none => .error (fault (.missingPart "logic" "right"))
      | some (.document left), some (.document right) =>
        have := Document.sizeOf_lt_of_get?_document hl
        have := Document.sizeOf_lt_of_get?_document hr
        return .logic connective (← ofDocument left) (← ofDocument right)
      | some (.document left), some other =>
        have := Document.sizeOf_lt_of_get?_document hl
        let _ ← ofDocument left
        .error (fault (.notADocument "right" other.elementType))
      | some other, some _ => .error (fault (.notADocument "left" other.elementType))
    | other => .error (fault (.notADocument "logic" other.elementType))
  | [("not", body)] =>
    match body with
    | .document d => return .not (← ofDocument d)
    | other => .error (fault (.notADocument "not" other.elementType))
  | [("group", body)] =>
    match body with
    | .document d => return .group (← ofDocument d)
    | other => .error (fault (.notADocument "group" other.elementType))
  | [(kind, _)] => .error (fault (.unknownKind kind))
  | d => .error (fault (.keyCount d.length))
termination_by d => sizeOf d

-- The reader recurses on the size of the document, so its simplest shape is unfolded here.

theorem ofDocument_operand (body : Document) :
    ofDocument [("operand", .document body)] = ofOperandBody body := by
  rw [ofDocument]

end Condition

end Dossier
