/-
# Conversion rules

A rule takes over the conversion of the field types that it checks for.  Of several rules the first
that checks for a type is the one that counts, so a later one for the same type is never reached
(`findRule_append`).

The standard rules store timestamps and instants as dates.  A date counts milliseconds, and what is
finer is rounded down.
-/
import Dossier.Bson.Basic
import Dossier.Record.Schema
import Dossier.Time.Rfc3339

namespace Dossier

/-- A conversion of the values of some field types. -/
structure TypeRule where
  /-- Whether the rule converts fields of the type. -/
  check : FieldType → Bool
  encode : Value → Except ConversionError Bson
  /-- A stored value as a value of the field type. -/
  decode : Bson → FieldType → Except ConversionError Value

/-- The first rule for a field type. -/
def findRule (rules : List TypeRule) (type : FieldType) : Option TypeRule :=
  rules.find? fun rule => rule.check type

theorem findRule_append (rules more : List TypeRule) (type : FieldType) :
    findRule (rules ++ more) type = (findRule rules type).or (findRule more type) :=
  List.find?_append

namespace TypeRule

/-! ## 1. Dates -/

/-- Reads an instant that is stored as a text. -/
def readInstant (text : String) : Except ConversionError Instant :=
  match Instant.parse? text with
  | some t => .ok t
  | none => .error (.badTimestamp (.unreadable text))

/-- Timestamps, or instants, as dates. -/
def encodeTimestamp : Value → Except ConversionError Bson
  | .timestamp t => t.toMillis.map .date
  | .instant t => (Timestamp.ofInstant t).toMillis.map .date
  | .date millis => .ok (.date millis)
  | other => .error (.expected "Timestamp" other.kind)

def decodeTimestamp : Bson → Except ConversionError Value
  | .date millis => (Timestamp.ofMillis millis).map .timestamp
  | .string text => do
    let t := Timestamp.ofInstant (← readInstant text)
    t.validate
    return .timestamp t
  | other => .error (.expected "Timestamp" other.elementType)

/-- Timestamps are stored as dates.  What is no valid timestamp cannot be read, but a date is
written as it is. -/
def timestamp : TypeRule where
  check type := type = .timestamp
  encode := encodeTimestamp
  decode stored _ := decodeTimestamp stored

def encodeInstant : Value → Except ConversionError Bson
  | .instant t => .ok (.date (Int64.ofInt t.toMillis))
  | .date millis => .ok (.date millis)
  | other => .error (.expected "DateTime<Utc>" other.kind)

def decodeInstant : Bson → Except ConversionError Value
  | .date millis => .ok (.instant (Instant.ofMillis millis.toInt))
  | .string text => (readInstant text).map .instant
  | other => .error (.expected "DateTime<Utc>" other.elementType)

/-- Instants are stored as dates. -/
def instant : TypeRule where
  check type := type = .instant
  encode := encodeInstant
  decode stored _ := decodeInstant stored

/-- The rules of a converter that is given no others. -/
def standard : List TypeRule := [timestamp, instant]

/-! ## 2. Rules for one type -/

/-- Strings with a label in front, in both directions; what is stored as no string reads as if it
were empty. -/
def labelled (label : String) (type : FieldType) : TypeRule where
  check other := other = type
  encode
    | .string s => .ok (.string (label ++ ":" ++ s))
    | other => .error (.expected "String" other.kind)
  decode stored _ := .ok (.string (label ++ "<-" ++ stored.asString?.getD ""))

/-- Values of an application's type that wrap an integer, stored as the integer.  What is read is an
object of its own, with the given handle. -/
def wrapped (name : String) (handle : Nat) : TypeRule where
  check type := type = .custom name
  encode
    | .custom value => .ok (.int64 value.payload)
    | other => .error (.expected name other.kind)
  decode
    | .int64 n, _ => .ok (.custom ⟨"i64", handle, n⟩)
    | other, _ => .error (.expected name other.elementType)

/-- One stored value and one value for all; a direction without a value does not convert, and says
so by the given name. -/
def fixed (name : String) (type : FieldType) (stored : Option Bson) (value : Option Value) :
    TypeRule where
  check other := other = type
  encode _ := match stored with
    | some b => .ok b
    | none => .error (.unsupportedType name)
  decode _ _ := match value with
    | some v => .ok v
    | none => .error (.unsupportedType name)

end TypeRule

end Dossier
