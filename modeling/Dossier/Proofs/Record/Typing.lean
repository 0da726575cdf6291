/-
# Values of a type

A value has a type if a field of the type can hold it: the kinds agree, an optional value is null or
one of the inner type, and a record has one value for each declared field.  Types of an
application's own have no values here, as only a rule can say what they are.

Types refer to one another by number, themselves included, so nothing bounds how deep a value of a
record type is.  What is proved by induction is proved on the typing, which follows the value down
(`HasType.induction`).
-/
import Dossier.Proofs.Time.Floor
import Dossier.Record.Schema
import Mathlib.Data.List.Forall2

namespace Dossier

namespace Value

/-! ## 1. Typing -/

/-- The value is one without parts, and of the type's kind. -/
inductive Plain : FieldType → Value → Prop where
  | bool (value : Bool) : Plain .bool (.bool value)
  | int32 (value : Int32) : Plain .int32 (.int32 value)
  | int64 (value : Int64) : Plain .int64 (.int64 value)
  | double (value : Double) : Plain .double (.double value)
  | string (value : String) : Plain .string (.string value)
  | instant (value : Instant) : Plain .instant (.instant value)
  | timestamp (value : Timestamp) : Plain .timestamp (.timestamp value)
  | date (millis : Int64) : Plain .date (.date millis)

/-- A field of the type can hold the value. -/
inductive HasType (types : Schema) : FieldType → Value → Prop where
  | plain {type : FieldType} {value : Value} (h : Plain type value) : HasType types type value
  | absent (inner : FieldType) : HasType types (.optional inner) .null
  | present {inner : FieldType} {value : Value} (h : HasType types inner value) :
      HasType types (.optional inner) value
  | seq {inner : FieldType} {items : List Value} (h : ∀ item ∈ items, HasType types inner item) :
      HasType types (.seq inner) (.seq items)
  | set {inner : FieldType} {items : List Value} (h : ∀ item ∈ items, HasType types inner item) :
      HasType types (.set inner) (.seq items)
  | record {id : RecordId} {values : List Value}
      (h : List.Forall₂ (HasType types) ((types id).fields.map FieldSpec.type) values) :
      HasType types (.record id) (.record values)

end Value

/-- There is one value for each field of the record, and it has the field's type. -/
def RecordType.Takes (types : Schema) (record : RecordType) (values : List Value) : Prop :=
  List.Forall₂ (Value.HasType types) (record.fields.map FieldSpec.type) values

namespace Value

variable {types : Schema}

/-- Induction along the typing.  In a record, what is proved holds of the value of each field. -/
theorem HasType.induction {motive : ∀ type value, HasType types type value → Prop}
    (plain : ∀ {type value} (h : Plain type value), motive type value (.plain h))
    (absent : ∀ inner, motive (.optional inner) .null (.absent inner))
    (present : ∀ {inner value} (h : HasType types inner value), motive inner value h →
      motive (.optional inner) value (.present h))
    (seq : ∀ {inner items} (h : ∀ item ∈ items, HasType types inner item),
      (∀ item hmem, motive inner item (h item hmem)) → motive (.seq inner) (.seq items) (.seq h))
    (set : ∀ {inner items} (h : ∀ item ∈ items, HasType types inner item),
      (∀ item hmem, motive inner item (h item hmem)) → motive (.set inner) (.seq items) (.set h))
    (record : ∀ {id values} (h : (types id).Takes types values),
      List.Forall₂ (fun type value => ∃ h, motive type value h)
        ((types id).fields.map FieldSpec.type) values →
      motive (.record id) (.record values) (.record h))
    {type : FieldType} {value : Value} (h : HasType types type value) : motive type value h :=
  @HasType.rec types motive
    (fun fields values _ => List.Forall₂ (fun type value => ∃ h, motive type value h) fields values)
    plain absent present seq set record .nil (fun _ _ hfirst hrest => .cons ⟨_, hfirst⟩ hrest)
    type value h

def isNull : Value → Bool
  | .null => true
  | _ => false

theorem isNull_iff {value : Value} : value.isNull = true ↔ value = .null := by
  cases value <;> simp [isNull]

/-! ## 2. Leap seconds and floors -/

mutual

/-- No instant in the value is inside a leap second. -/
def Ordinary : Value → Prop
  | .instant t => t.nanos < 1000000000
  | .seq items => AllOrdinary items
  | .record fields => AllOrdinary fields
  | _ => True

def AllOrdinary : List Value → Prop
  | [] => True
  | value :: rest => Ordinary value ∧ AllOrdinary rest

end

theorem AllOrdinary.mem {values : List Value} (h : AllOrdinary values) :
    ∀ value ∈ values, value.Ordinary := by
  induction values with
  | nil => exact fun _ hmem => absurd hmem List.not_mem_nil
  | cons value rest ih => exact List.forall_mem_cons.mpr ⟨h.1, ih h.2⟩

mutual

/-- The value with every point in time at millisecond resolution. -/
def floored : Value → Value
  | .instant t => .instant t.floored
  | .timestamp t => .timestamp t.floored
  | .seq items => .seq (allFloored items)
  | .record fields => .record (allFloored fields)
  | value => value

def allFloored : List Value → List Value
  | [] => []
  | value :: rest => floored value :: allFloored rest

end

theorem allFloored_eq_map (values : List Value) : allFloored values = values.map floored := by
  induction values with
  | nil => rfl
  | cons value rest ih => rw [allFloored, ih, List.map_cons]

@[simp] theorem floored_seq (items : List Value) :
    (Value.seq items).floored = .seq (items.map floored) :=
  congrArg Value.seq (allFloored_eq_map items)

@[simp] theorem floored_record (fields : List Value) :
    (Value.record fields).floored = .record (fields.map floored) :=
  congrArg Value.record (allFloored_eq_map fields)

@[simp] theorem isNull_floored (value : Value) : value.floored.isNull = value.isNull := by
  cases value <;> rfl

theorem Plain.floored {type : FieldType} {value : Value} (h : Plain type value) :
    Plain type value.floored := by
  cases h with
  | instant t => exact .instant t.floored
  | timestamp t => exact .timestamp t.floored
  | bool b => exact .bool b
  | int32 n => exact .int32 n
  | int64 n => exact .int64 n
  | double x => exact .double x
  | string s => exact .string s
  | date millis => exact .date millis

/-- Flooring keeps the type. -/
theorem HasType.floored {type : FieldType} {value : Value} (h : HasType types type value) :
    HasType types type value.floored := by
  induction h using HasType.induction with
  | plain h => exact .plain h.floored
  | absent inner => exact .absent inner
  | present h ih => exact .present ih
  | seq h ih =>
    rw [floored_seq]
    exact .seq (List.forall_mem_map.mpr ih)
  | set h ih =>
    rw [floored_seq]
    exact .set (List.forall_mem_map.mpr ih)
  | record h ih =>
    rw [floored_record]
    exact .record (List.forall₂_map_right_iff.mpr (ih.imp fun _ _ hvalue => hvalue.2))

end Value

theorem RecordType.Takes.floored {types : Schema} {record : RecordType} {values : List Value}
    (h : record.Takes types values) : record.Takes types (values.map Value.floored) :=
  List.forall₂_map_right_iff.mpr (h.imp fun _ _ hvalue => hvalue.floored)

end Dossier
