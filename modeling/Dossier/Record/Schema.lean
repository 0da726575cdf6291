/-
# Record types

A record type has a name and a list of declared fields.  Types refer to one another by number,
themselves included, and a `Schema` says what each number stands for.

A field type has a text, in which a record type stands by its name (`FieldType.text`).
-/
import Dossier.Error
import Dossier.Record.Value

namespace Dossier

/-- The number of a record type. -/
abbrev RecordId := Nat

/-- What a field holds. -/
inductive FieldType where
  | bool
  | int32
  | int64
  | double
  | string
  /-- A point of universal time. -/
  | instant
  /-- Seconds and nanoseconds. -/
  | timestamp
  /-- A stored date. -/
  | date
  | optional (inner : FieldType)
  | seq (inner : FieldType)
  | set (inner : FieldType)
  | record (id : RecordId)
  /-- A type that only a rule can convert. -/
  | custom (name : String)
deriving DecidableEq, Inhabited

/-- A declared field. -/
structure FieldSpec where
  name : String
  type : FieldType
  /-- The key declared for the field, instead of its name in camel case. -/
  rename : Option String := none
  /-- Whether the field is declared as the record's identity. -/
  identity : Bool := false
deriving DecidableEq, Inhabited

/-- The declaration of a record. -/
structure RecordType where
  name : String
  fields : List FieldSpec
  /-- Whether the record is rebuilt field by field, each checked against its type; a record that
  is not takes any list of values as it is. -/
  checked : Bool := true
deriving DecidableEq, Inhabited

/-- What the numbers of record types stand for. -/
abbrev Schema := RecordId → RecordType

/-- The name of a field type. -/
def FieldType.text (types : Schema) : FieldType → String
  | .bool => "bool"
  | .int32 => "i32"
  | .int64 => "i64"
  | .double => "f64"
  | .string => "String"
  | .instant => "DateTime<Utc>"
  | .timestamp => "Timestamp"
  | .date => "bson::DateTime"
  | .optional inner => "Option<" ++ inner.text types ++ ">"
  | .seq inner => "Vec<" ++ inner.text types ++ ">"
  | .set inner => "Set<" ++ inner.text types ++ ">"
  | .record id => (types id).name
  | .custom name => name

end Dossier
