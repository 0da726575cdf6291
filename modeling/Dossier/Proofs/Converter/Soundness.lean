/-
# Decoded values have their declared types

Decoding and the rebuilding of a record are two recursions that know nothing of each other: the
first goes along declared types and stored values, the second takes values for the fields of a
record.  They meet in the typing of values.  Whatever is read has its declared type, with valid
timestamps throughout (`Bson.Reads.hasType`, `Bson.Reads.timesValid`), and a record takes all values
of its types, so that nothing fails after a document has been decoded.

Main statement: `Converter.decode_sound`.
-/
import Dossier.Proofs.Converter.Reading
import Dossier.Proofs.Record.Keeping
import Mathlib.Data.List.Forall2

namespace Dossier

/-! ## 1. Valid timestamps -/

theorem Timestamp.valid_of_ofMillis {millis : Int64} {t : Timestamp}
    (h : Timestamp.ofMillis millis = .ok t) : t.Valid := by
  obtain ⟨_, hvalid, ht⟩ := bind_eq_ok_iff.mp h
  cases ht
  exact validate_eq_ok_iff.mp hvalid

namespace Value

mutual

/-- Every timestamp in the value is valid. -/
def TimesValid : Value → Prop
  | .timestamp t => t.Valid
  | .seq items => AllTimesValid items
  | .record fields => AllTimesValid fields
  | _ => True

def AllTimesValid : List Value → Prop
  | [] => True
  | value :: rest => TimesValid value ∧ AllTimesValid rest

end

theorem allTimesValid_iff {values : List Value} :
    AllTimesValid values ↔ ∀ value ∈ values, value.TimesValid := by
  induction values with
  | nil => exact iff_of_true trivial fun _ hmem => absurd hmem List.not_mem_nil
  | cons value rest ih => rw [AllTimesValid, ih, List.forall_mem_cons]

end Value

/-! ## 2. What is read has its type -/

namespace Bson

variable {types : Schema}

theorem ReadsPlain.plain {type : FieldType} {stored : Bson} {value : Value}
    (h : ReadsPlain type stored value) : Value.Plain type value := by
  cases h <;> constructor

theorem ReadsPlain.timesValid {type : FieldType} {stored : Bson} {value : Value}
    (h : ReadsPlain type stored value) : value.TimesValid := by
  cases h with
  | timestamp h => exact Timestamp.valid_of_ofMillis h
  | timestampText _ hvalid => exact hvalid
  | _ => trivial

/-- **What is read has the type that it is read at.** -/
theorem Reads.hasType {type : FieldType} {stored : Bson} {value : Value}
    (h : Reads types type stored value) : value.HasType types type := by
  induction h with
  | plain h => exact .plain h.plain
  | absent inner => exact .absent inner
  | present _ _ ih => exact .present ih
  | seq hlength _ ih =>
    refine .seq fun value hvalue => ?_
    obtain ⟨item, hmem⟩ := exists_mem_zip_right hlength hvalue
    exact ih item value hmem
  | set hlength _ ih =>
    refine .set fun value hvalue => ?_
    obtain ⟨item, hmem⟩ := exists_mem_zip_right hlength hvalue
    exact ih item value hmem
  | record hdescriptor hlength _ ih =>
    refine .record ?_
    rw [← (RecordDescriptor.Follows.of_describeNested hdescriptor).types,
      List.forall₂_map_left_iff]
    exact List.forall₂_iff_zip.mpr ⟨hlength, ih _ _⟩

/-- **No timestamp is read that is not valid**, at any depth. -/
theorem Reads.timesValid {type : FieldType} {stored : Bson} {value : Value}
    (h : Reads types type stored value) : value.TimesValid := by
  have hall {α : Type} {as : List α} {values : List Value} (hlength : as.length = values.length)
      (ih : ∀ a value, (a, value) ∈ as.zip values → value.TimesValid) :
      Value.AllTimesValid values := by
    refine Value.allTimesValid_iff.mpr fun value hvalue => ?_
    obtain ⟨a, hmem⟩ := exists_mem_zip_right hlength hvalue
    exact ih a value hmem
  induction h with
  | plain h => exact h.timesValid
  | absent inner => exact trivial
  | present _ _ ih => exact ih
  | seq hlength _ ih => exact hall hlength ih
  | set hlength _ ih => exact hall hlength ih
  | record _ hlength _ ih => exact hall hlength ih

end Bson

/-! ## 3. Records -/

namespace Converter

variable {c : Converter} {types : Schema} {id : RecordId} {d : Document} {values : List Value}

/-- A document is decoded exactly if the record has a descriptor and each of its fields can be
read. -/
theorem decodeValues_eq_ok_iff (hrules : c.rules = TypeRule.standard) :
    c.decodeValues types id d = .ok values ↔
      ∃ descriptor, c.describe (types id) = .ok descriptor ∧
        descriptor.fields.length = values.length ∧
        ∀ field value, (field, value) ∈ descriptor.fields.zip values →
          Bson.Reads types field.type (d.getOrNull field.key) value := by
  rw [decodeValues, bind_eq_ok_iff, hrules]
  simp only [← decodeFields_eq_ok_iff_reads]

theorem decodeValues_of_reads (hrules : c.rules = TypeRule.standard) {descriptor : RecordDescriptor}
    (hdescribe : c.describe (types id) = .ok descriptor)
    (h : List.Forall₂ (fun field value =>
      Bson.Reads types field.type (d.getOrNull field.key) value) descriptor.fields values) :
    c.decodeValues types id d = .ok values := by
  obtain ⟨hlength, hread⟩ := List.forall₂_iff_zip.mp h
  exact (decodeValues_eq_ok_iff hrules).mpr ⟨descriptor, hdescribe, hlength, fun _ _ => hread⟩

/-- The values of a document are of the types of the record's fields, with valid timestamps. -/
theorem takes_of_decodeValues (hrules : c.rules = TypeRule.standard)
    (h : c.decodeValues types id d = .ok values) :
    (types id).Takes types values ∧ Value.AllTimesValid values := by
  obtain ⟨descriptor, hdescriptor, hlength, hread⟩ := (decodeValues_eq_ok_iff hrules).mp h
  constructor
  · unfold RecordType.Takes
    rw [← (RecordDescriptor.Follows.of_describe hdescriptor).types, List.forall₂_map_left_iff]
    exact List.forall₂_iff_zip.mpr ⟨hlength, fun hmem => (hread _ _ hmem).hasType⟩
  · refine Value.allTimesValid_iff.mpr fun value hvalue => ?_
    obtain ⟨field, hmem⟩ := exists_mem_zip_right hlength hvalue
    exact (hread field value hmem).timesValid

/-- Without sets, a record keeps the values that are read. -/
theorem decode_of_setFree (hrules : c.rules = TypeRule.standard)
    (hfree : (FieldType.record id).SetFree types) (h : c.decodeValues types id d = .ok values) :
    c.decode types id d = .ok values := by
  refine bind_eq_ok_iff.mpr ⟨values, h, ?_⟩
  obtain ⟨htakes, -⟩ := takes_of_decodeValues hrules h
  unfold RecordType.accept
  split
  · exact Value.readFields_eq_self hfree.fields (htakes.imp fun _ _ htype => htype.read_eq_self)
  · rfl

/-- **Decoding is sound.**  Under the standard rules, a document that is decoded gives one value for
each declared field, of the field's type and with valid timestamps at every depth.  The record takes
these values: it is rebuilt exactly if the document is decoded, and the errors are those of
decoding. -/
theorem decode_sound (hrules : c.rules = TypeRule.standard) (types : Schema) (id : RecordId)
    (d : Document) :
    (∀ values, c.decodeValues types id d = .ok values →
      (types id).Takes types values ∧ Value.AllTimesValid values ∧
        ∃ kept, (types id).accept types values = .ok kept) ∧
    ((∃ kept, c.decode types id d = .ok kept) ↔
      ∃ values, c.decodeValues types id d = .ok values) ∧
    ∀ e, c.decode types id d = .error e ↔ c.decodeValues types id d = .error e := by
  have htaken : ∀ values, c.decodeValues types id d = .ok values →
      (types id).Takes types values ∧ Value.AllTimesValid values ∧
        ∃ kept, (types id).accept types values = .ok kept := by
    intro values h
    obtain ⟨htakes, htimes⟩ := takes_of_decodeValues hrules h
    exact ⟨htakes, htimes, htakes.exists_accept⟩
  refine ⟨htaken, ?_⟩
  cases hdecode : c.decodeValues types id d with
  | error e =>
    have heq : c.decode types id d = .error e := by rw [decode, hdecode]; rfl
    rw [heq]
    exact ⟨iff_of_false (by rintro ⟨_, ⟨⟩⟩) (by rintro ⟨_, ⟨⟩⟩), fun _ => Iff.rfl⟩
  | ok values =>
    obtain ⟨-, -, kept, hkept⟩ := htaken values hdecode
    have heq : c.decode types id d = .ok kept := by rw [decode, hdecode]; exact hkept
    rw [heq]
    exact ⟨iff_of_true ⟨kept, rfl⟩ ⟨values, rfl⟩,
      fun _ => iff_of_false (by rintro ⟨⟩) (by rintro ⟨⟩)⟩

namespace Example

/-- A sensor, which can have parts that are sensors. -/
def sensors : Schema := fun _ =>
  ⟨"Sensor", [⟨"serial", .int64, none, true⟩, ⟨"score", .double, none, false⟩,
    ⟨"last_seen", .optional .timestamp, none, false⟩, ⟨"codes", .set .int32, none, false⟩,
    ⟨"parts", .seq (.record 0), none, false⟩], true⟩

/-- A sensor with integers of other widths than declared, a key that is not declared, and a part
that was never seen. -/
def sensorDocument : Document :=
  [("extra", .undefined), ("_id", .int32 7), ("score", .int64 3), ("lastSeen", .date 10005),
    ("codes", .array [.int64 5, .int32 (-1)]),
    ("parts", .array [.document [("serial", .int64 8), ("score", .double ⟨0⟩),
      ("codes", .array []), ("parts", .array [])]])]

def sensorValues : List Value :=
  [.int64 7, .double (Double.ofInt 3), .timestamp ⟨10, 5000000⟩, .seq [.int32 5, .int32 (-1)],
    .seq [.record [.int64 8, .double ⟨0⟩, .null, .seq [], .seq []]]]

theorem decodeValues_sensor :
    ({} : Converter).decodeValues sensors 0 sensorDocument = .ok sensorValues := by
  have hpart : Bson.Reads sensors (.record 0) (.document [("serial", .int64 8),
      ("score", .double ⟨0⟩), ("codes", .array []), ("parts", .array [])])
      (.record [.int64 8, .double ⟨0⟩, .null, .seq [], .seq []]) :=
    .ofFields rfl (.cons (.plain (.int64 8)) (.cons (.plain (.double ⟨0⟩)) (.cons (.absent _)
      (.cons (Bson.Reads.ofItems .nil).2 (.cons (Bson.Reads.ofItems .nil).1 .nil)))))
  have hseen : Bson.Reads sensors (.optional .timestamp) (.date 10005)
      (.timestamp ⟨10, 5000000⟩) := .present rfl (.plain (.timestamp rfl))
  have hcodes : Bson.Reads sensors (.set .int32) (.array [.int64 5, .int32 (-1)])
      (.seq [.int32 5, .int32 (-1)]) :=
    (Bson.Reads.ofItems (.cons (.plain (.narrowed 5 (by decide) (by decide)))
      (.cons (.plain (.int32 (-1))) .nil))).2
  exact decodeValues_of_reads rfl rfl (.cons (.plain (.widened 7))
    (.cons (.plain (.doubleOfInt64 3)) (.cons hseen (.cons hcodes
      (.cons (Bson.Reads.ofItems (.cons hpart .nil)).1 .nil)))))

theorem decode_sound_sensor :
    ({} : Converter).rules = TypeRule.standard ∧
      ({} : Converter).decodeValues sensors 0 sensorDocument = .ok sensorValues ∧
      (sensors 0).Takes sensors sensorValues ∧ Value.AllTimesValid sensorValues ∧
      ∃ kept, ({} : Converter).decode sensors 0 sensorDocument = .ok kept := by
  have hrules : ({} : Converter).rules = TypeRule.standard := rfl
  obtain ⟨htaken, hdecodes, -⟩ := decode_sound hrules sensors 0 sensorDocument
  obtain ⟨htakes, htimes, -⟩ := htaken _ decodeValues_sensor
  exact ⟨hrules, decodeValues_sensor, htakes, htimes, hdecodes.mpr ⟨_, decodeValues_sensor⟩⟩

end Example

end Converter

end Dossier
