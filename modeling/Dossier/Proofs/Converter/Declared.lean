/-
# Only declared keys are read

A document may have more keys than its record declares, in any order, and may lack some that are
null.  None of this can be seen in what is decoded from it, be it values or an error.

Which keys are declared depends on the type at which a document is read: those of the record, if it
is one, and none otherwise.  So `Bson.Agree` goes down two stored values along a type, and where no
type is declared for what is stored, no key is.  The induction is on the agreement, and follows it
through arrays and nested documents (`Bson.Agree.decodeValue_eq`).

Main statement: `Converter.decode_declared`.
-/
import Dossier.Proofs.Converter.Soundness
import Mathlib.Tactic.FinCases

namespace Dossier

/-! ## 1. Agreement -/

namespace FieldType

/-- The type at which the items of an array are read. -/
def itemType? : FieldType → Option FieldType
  | .optional inner => inner.itemType?
  | .seq inner | .set inner => some inner
  | _ => none

/-- The fields that are declared for a document. -/
def declared (types : Schema) : FieldType → List FieldSpec
  | .optional inner => inner.declared types
  | .record id => (types id).fields
  | _ => []

end FieldType

namespace Bson

/-- The two stored values are equal but for keys that are not declared, the order of keys, and keys
that are missing in one and null in the other.  They are read at the type, or at none. -/
inductive Agree (types : Schema) : Option FieldType → Bson → Bson → Prop where
  | same (type : Option FieldType) (stored : Bson) : Agree types type stored stored
  | array {type : Option FieldType} {items others : List Bson}
      (hlength : items.length = others.length)
      (h : ∀ item other, (item, other) ∈ items.zip others →
        Agree types (type.bind FieldType.itemType?) item other) :
      Agree types type (.array items) (.array others)
  | document {type : Option FieldType} {d e : Document}
      (h : ∀ field ∈ type.elim [] (FieldType.declared types),
        Agree types (some field.type) (d.getOrNull field.declaredKey)
          (e.getOrNull field.declaredKey)) :
      Agree types type (.document d) (.document e)

end Bson

section

variable {types : Schema}

/-! ## 2. Arrays and documents -/

/-- Nested records are stored under the keys that their fields declare. -/
theorem fields_of_describeNested {record : RecordType} {descriptor : RecordDescriptor}
    (h : describeNested record = .ok descriptor) :
    descriptor.fields = record.fields.map fun field => field.storedAs field.declaredKey := by
  obtain ⟨rfl, -⟩ := distinctKeys_of_checkKeys h
  rfl

/-- Of an array only the items are looked at, at the type that is declared for them. -/
theorem decodeValue_array_congr {type : FieldType} {items others : List Bson}
    (h : ∀ inner, type.itemType? = some inner →
      decodeItems types TypeRule.standard (nestedDescriptor types) inner items =
        decodeItems types TypeRule.standard (nestedDescriptor types) inner others) :
    decodeValue types TypeRule.standard (nestedDescriptor types) type (.array items) =
      decodeValue types TypeRule.standard (nestedDescriptor types) type (.array others) := by
  induction type with
  | optional inner ih =>
    rw [decodeValue_optional rfl, decodeValue_optional rfl]
    exact ih h
  | seq inner =>
    rw [decodeValue.eq_def, decodeValue.eq_def]
    exact congrArg (· >>= fun values => pure (Value.seq values)) (h inner rfl)
  | set inner =>
    rw [decodeValue.eq_def, decodeValue.eq_def]
    exact congrArg (· >>= fun values => pure (Value.seq values)) (h inner rfl)
  | instant => rw [decodeValue_instant, decodeValue_instant]; rfl
  | timestamp => rw [decodeValue_timestamp, decodeValue_timestamp]; rfl
  | _ => rw [decodeValue.eq_def, decodeValue.eq_def]; rfl

/-- Of a document only the declared fields are looked at. -/
theorem decodeValue_document_congr {type : FieldType} {d e : Document}
    (h : ∀ field ∈ type.declared types,
      decodeValue types TypeRule.standard (nestedDescriptor types) field.type
          (d.getOrNull field.declaredKey) =
        decodeValue types TypeRule.standard (nestedDescriptor types) field.type
          (e.getOrNull field.declaredKey)) :
    decodeValue types TypeRule.standard (nestedDescriptor types) type (.document d) =
      decodeValue types TypeRule.standard (nestedDescriptor types) type (.document e) := by
  induction type with
  | optional inner ih =>
    rw [decodeValue_optional rfl, decodeValue_optional rfl]
    exact ih h
  | record id =>
    rw [decodeValue.eq_def, decodeValue.eq_def]
    show (nestedDescriptor types id >>= _) = (nestedDescriptor types id >>= _)
    cases hdescriptor : nestedDescriptor types id with
    | error e => rfl
    | ok descriptor =>
      have hfields : decodeFields types TypeRule.standard (nestedDescriptor types)
          descriptor.fields d = decodeFields types TypeRule.standard (nestedDescriptor types)
            descriptor.fields e := by
        rw [fields_of_describeNested hdescriptor]
        exact decodeFields_congr (List.forall_mem_map.mpr h)
      exact congrArg (· >>= fun values => pure (Value.record values)) hfields
  | instant => rw [decodeValue_instant, decodeValue_instant]; rfl
  | timestamp => rw [decodeValue_timestamp, decodeValue_timestamp]; rfl
  | _ => rw [decodeValue.eq_def, decodeValue.eq_def]; rfl

/-! ## 3. Values that decode alike -/

/-- **Stored values that agree decode alike**, to the same value or with the same error. -/
theorem Bson.Agree.decodeValue_eq {type : FieldType} {stored other : Bson}
    (h : Bson.Agree types (some type) stored other) :
    decodeValue types TypeRule.standard (nestedDescriptor types) type stored =
      decodeValue types TypeRule.standard (nestedDescriptor types) type other := by
  generalize hreader : some type = reader at h
  induction h generalizing type with
  | same => rfl
  | array hlength _ ih =>
    subst hreader
    refine decodeValue_array_congr fun inner hinner => decodeItems_congr ?_
    exact List.forall₂_iff_zip.mpr ⟨hlength, fun hmem => ih _ _ hmem hinner.symm⟩
  | document _ ih =>
    subst hreader
    exact decodeValue_document_congr fun field hfield => ih field hfield rfl

end

/-! ## 4. Records -/

namespace Converter

variable {c : Converter} {types : Schema} {id : RecordId} {d e : Document}

/-- **Decoding depends on declared keys only.**  Under the standard rules, two documents that agree
under every key of the record decode to the same values or fail with the same error, and so does
the record that is rebuilt from them. -/
theorem decode_declared (hrules : c.rules = TypeRule.standard)
    (h : ∀ descriptor, c.describe (types id) = .ok descriptor → ∀ field ∈ descriptor.fields,
      Bson.Agree types (some field.type) (d.getOrNull field.key) (e.getOrNull field.key)) :
    c.decodeValues types id d = c.decodeValues types id e ∧
      c.decode types id d = c.decode types id e := by
  have hvalues : c.decodeValues types id d = c.decodeValues types id e := by
    unfold decodeValues
    cases hdescribe : c.describe (types id) with
    | error e => rfl
    | ok descriptor =>
      rw [hrules]
      exact decodeFields_congr fun field hfield =>
        (h descriptor hdescribe field hfield).decodeValue_eq
  exact ⟨hvalues, by rw [decode, decode, hvalues]⟩

namespace Example

/-- The sensor in another order, with keys that are not declared, also in a part, and the time that
the part lacks as null. -/
def otherSensorDocument : Document :=
  [("parts", .array [.document [("parts", .array []), ("note", .document [("serial", .int64 9)]),
      ("codes", .array []), ("lastSeen", .null), ("score", .double ⟨0⟩), ("serial", .int64 8)]]),
    ("codes", .array [.int64 5, .int32 (-1)]), ("lastSeen", .date 10005), ("score", .int64 3),
    ("serial", .string "7"), ("_id", .int32 7)]

theorem decode_declared_sensor :
    (∀ descriptor, ({} : Converter).describe (sensors 0) = .ok descriptor →
      ∀ field ∈ descriptor.fields, Bson.Agree sensors (some field.type)
        (sensorDocument.getOrNull field.key) (otherSensorDocument.getOrNull field.key)) ∧
      ({} : Converter).decodeValues sensors 0 sensorDocument = .ok sensorValues ∧
      ({} : Converter).decodeValues sensors 0 otherSensorDocument = .ok sensorValues := by
  have hagree : ∀ descriptor, ({} : Converter).describe (sensors 0) = .ok descriptor →
      ∀ field ∈ descriptor.fields, Bson.Agree sensors (some field.type)
        (sensorDocument.getOrNull field.key) (otherSensorDocument.getOrNull field.key) := by
    intro descriptor hdescribe field hfield
    cases hdescribe
    fin_cases hfield
    · exact .same _ _
    · exact .same _ _
    · exact .same _ _
    · exact .same _ _
    · refine .array rfl fun item other hmem => ?_
      cases List.mem_singleton.mp hmem
      refine .document fun field hfield => ?_
      fin_cases hfield <;> exact .same _ _
  exact ⟨hagree, decodeValues_sensor,
    (decode_declared rfl hagree).1.symm.trans decodeValues_sensor⟩

end Example

end Converter

end Dossier
