/-
# From documents to records

Each stored value is decoded by the first rule for its field's type, or else by its structure.
Integers of either width are read where they fit, and where a double is wanted; a missing key reads
as null, and keys that the record does not declare are passed over.
-/
import Dossier.Converter.Encode
import Dossier.Double.Rounding
import Dossier.Record.Conform

namespace Dossier

/-- The value of a key, or null. -/
def Document.getOrNull (d : Document) (key : String) : Bson := (d.get? key).getD .null

theorem Document.sizeOf_getOrNull_le (d : Document) (key : String) :
    sizeOf (d.getOrNull key) ≤ sizeOf d := by
  unfold getOrNull
  cases h : d.get? key with
  | some v => exact Nat.le_of_lt (sizeOf_lt_of_get? h)
  | none =>
    cases d with
    | nil => simp
    | cons entry rest =>
      have : sizeOf (Option.getD (none : Option Bson) Bson.null) = 1 := rfl
      rw [this, List.cons.sizeOf_spec]
      omega

section

variable {m : Type → Type} [Monad m] [MonadExceptOf ConversionError m]
variable (types : Schema) (rules : List TypeRule) (nested : RecordId → m RecordDescriptor)

/-- An integer of 64 bits as one of 32, if it is one. -/
def narrow (n : Int64) : m Value :=
  if Int32.minValue.toInt ≤ n.toInt ∧ n.toInt ≤ Int32.maxValue.toInt then pure (.int32 n.toInt32)
  else
    throw (ConversionError.expected (FieldType.int32.text types)
      ("integer " ++ toString n.toInt))

mutual

def decodeValue (type : FieldType) (stored : Bson) : m Value :=
  match findRule rules type with
  | some rule => MonadExcept.ofExcept (rule.decode stored type)
  | none =>
    match type, stored with
    | .optional _, .null => pure .null
    | .optional inner, stored => decodeValue inner stored
    | .bool, .boolean b => pure (.bool b)
    | .int32, .int32 n => pure (.int32 n)
    | .int32, .int64 n => narrow types n
    | .int64, .int64 n => pure (.int64 n)
    | .int64, .int32 n => pure (.int64 n.toInt64)
    | .double, .double x => pure (.double x)
    | .double, .int32 n => pure (.double (Double.ofInt n.toInt))
    | .double, .int64 n => pure (.double (Double.ofInt n.toInt))
    | .string, .string s => pure (.string s)
    | .date, .date millis => pure (.date millis)
    | .seq inner, .array items => do return .seq (← decodeItems inner items)
    | .set inner, .array items => do return .seq (← decodeItems inner items)
    | .record id, .document d => do
      let descriptor ← nested id
      return .record (← decodeFields descriptor.fields d)
    | type, stored => refuse types type stored.elementType
termination_by (2 * sizeOf stored, sizeOf type)

def decodeItems (type : FieldType) (items : List Bson) : m (List Value) :=
  match items with
  | [] => pure []
  | item :: rest => do
    let item ← decodeValue type item
    return item :: (← decodeItems type rest)
termination_by (2 * sizeOf items, 0)

/-- The values of fields, in order. -/
def decodeFields (fields : List FieldDescriptor) (d : Document) : m (List Value) :=
  match fields with
  | [] => pure []
  | field :: rest => do
    let value ← claimedBy field.name (decodeValue field.type (d.getOrNull field.key))
    return value :: (← decodeFields rest d)
termination_by (2 * sizeOf d + 1, sizeOf fields)
decreasing_by
  · have := d.sizeOf_getOrNull_le field.key
    exact Prod.Lex.left _ _ (by omega)
  · exact Prod.Lex.right _ (by simp only [List.cons.sizeOf_spec]; omega)

end

end

namespace Converter

/-- The field values of a document, as they are decoded. -/
def decodeValues (c : Converter) (types : Schema) (id : RecordId) (d : Document) :
    Except ConversionError (List Value) := do
  let descriptor ← c.describe (types id)
  decodeFields types c.rules (fun id => describeNested (types id)) descriptor.fields d

/-- The top-level record of a document. -/
def decode (c : Converter) (types : Schema) (id : RecordId) (d : Document) :
    Except ConversionError (List Value) := do
  let values ← c.decodeValues types id d
  (types id).accept types values

end Converter

end Dossier
