/-
# From records to documents

Each value is encoded by the first rule for its field's type, or else by its structure: an optional
value without one becomes null, sequences and sets become arrays, nested records become documents.
Rules are looked for anew at every level, so a rule for a type holds inside sequences and nested
records too.

Descriptors of nested records come from `nested`, in whatever monad that looks them up; see
`Converter.encode` for the plain one and `Converter/Cached` for one that remembers them.
-/
import Dossier.Converter.Basic

namespace Dossier

/-- Among plain conversions, a rule's result is taken as it is. -/
@[simp] theorem ofExcept_eq_self {α : Type} (result : Except ConversionError α) :
    (MonadExcept.ofExcept result : Except ConversionError α) = result := by
  cases result <;> rfl

section

variable {m : Type → Type} [Monad m] [MonadExceptOf ConversionError m]
variable (types : Schema) (rules : List TypeRule) (nested : RecordId → m RecordDescriptor)

/-- A value that has no structure of its own to be converted by, or not that of its type. -/
def refuse {α : Type} (type : FieldType) (found : String) : m α :=
  match type with
  | .instant | .timestamp | .custom _ => throw (ConversionError.unsupportedType (type.text types))
  | _ => throw (ConversionError.expected (type.text types) found)

mutual

def encodeValue (type : FieldType) (value : Value) : m Bson :=
  match findRule rules type with
  | some rule => MonadExcept.ofExcept (rule.encode value)
  | none =>
    match type, value with
    | .optional _, .null => pure .null
    | .optional inner, value => encodeValue inner value
    | .bool, .bool b => pure (.boolean b)
    | .int32, .int32 n => pure (.int32 n)
    | .int64, .int64 n => pure (.int64 n)
    | .double, .double x => pure (.double x)
    | .string, .string s => pure (.string s)
    | .date, .date millis => pure (.date millis)
    | .seq inner, .seq items => do return .array (← encodeItems inner items)
    | .set inner, .seq items => do return .array (← encodeItems inner items)
    | .record id, .record values => do
      let descriptor ← nested id
      return .document (← encodeFields descriptor values)
    | type, value => refuse types type value.kind
termination_by (sizeOf value, 2 + sizeOf type)

def encodeItems (type : FieldType) (items : List Value) : m (List Bson) :=
  match items with
  | [] => pure []
  | item :: rest => do
    let item ← encodeValue type item
    return item :: (← encodeItems type rest)
termination_by (sizeOf items, 0)

/-- The document of a record's values, of which there is one for each field. -/
def encodeFields (descriptor : RecordDescriptor) (values : List Value) : m Document :=
  if values.length = descriptor.fields.length then encodeEach descriptor.fields values
  else throw (ConversionError.fieldMismatch descriptor.typeName
    (.valueCount descriptor.fields.length values.length))
termination_by (sizeOf values, 1)

def encodeEach (fields : List FieldDescriptor) (values : List Value) : m Document :=
  match fields, values with
  | field :: fields, value :: rest => do
    let stored ← claimedBy field.name (encodeValue field.type value)
    return (field.key, stored) :: (← encodeEach fields rest)
  | _, _ => pure []
termination_by (sizeOf values, 0)

end

end

/-- The document of a top-level record. -/
def Converter.encode (c : Converter) (types : Schema) (id : RecordId) (values : List Value) :
    Except ConversionError Document := do
  let descriptor ← c.describe (types id)
  encodeFields types c.rules (fun id => describeNested (types id)) descriptor values

end Dossier
