/-
# Values that conform to a type

`Value.read` takes a value for a field of a type and gives it in the form in which the field keeps
it, or says why it is none.  Null stands for a missing optional value at every layer; the items
of a set come out sorted, each once; a record drops the values after its last field.

A record type that is not `checked` keeps any list of values as it is.
-/
import Dossier.Record.Schema

namespace Dossier

namespace Value

variable (types : Schema)

/-- The value does not have the kind of the type. -/
def misfit {α : Type} (type : FieldType) (value : Value) : Except ConversionError α :=
  .error (.expected (type.text types) value.kind)

mutual

/-- The value in the form in which a field of the type keeps it. -/
def read (type : FieldType) (value : Value) : Except ConversionError Value :=
  match type, value with
  | .bool, .bool b => .ok (.bool b)
  | .int32, .int32 n => .ok (.int32 n)
  | .int64, .int64 n => .ok (.int64 n)
  | .double, .double x => .ok (.double x)
  | .string, .string s => .ok (.string s)
  | .instant, .instant t => .ok (.instant t)
  | .timestamp, .timestamp t => .ok (.timestamp t)
  | .date, .date millis => .ok (.date millis)
  | .optional _, .null => .ok .null
  | .optional inner, value => read inner value
  | .seq inner, .seq items =>
    match readItems inner items with
    | .ok items => .ok (.seq items)
    | .error e => .error e
  | .set inner, .seq items =>
    match readItems inner items with
    | .ok items => .ok (.seq (sortDistinct items))
    | .error e => .error e
  | .record id, .record values =>
    if (types id).checked then
      match readFields (types id).fields values with
      | .ok values => .ok (.record values)
      | .error e => .error e
    else .ok (.record values)
  | type, value => misfit types type value
termination_by (sizeOf value, 1 + sizeOf type)

def readItems (type : FieldType) (items : List Value) : Except ConversionError (List Value) :=
  match items with
  | [] => .ok []
  | item :: rest =>
    match read type item with
    | .error e => .error e
    | .ok item =>
      match readItems type rest with
      | .error e => .error e
      | .ok rest => .ok (item :: rest)
termination_by (sizeOf items, 0)

/-- The values of declared fields, in order. -/
def readFields (fields : List FieldSpec) (values : List Value) :
    Except ConversionError (List Value) :=
  match fields, values with
  | [], _ => .ok []
  | field :: _, [] => .error (.fieldMismatch field.name .missingValue)
  | field :: fields, value :: rest =>
    match claimedBy field.name (read field.type value) with
    | .error e => .error e
    | .ok value =>
      match readFields fields rest with
      | .error e => .error e
      | .ok rest => .ok (value :: rest)
termination_by (sizeOf values, 0)

end

end Value

/-- The field values of a record, in the form in which the record keeps them. -/
def RecordType.accept (types : Schema) (record : RecordType) (values : List Value) :
    Except ConversionError (List Value) :=
  if record.checked then Value.readFields types record.fields values else .ok values

end Dossier
