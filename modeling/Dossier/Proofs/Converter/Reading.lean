/-
# What a stored value reads as

Decoding is lenient: an integer is read in either width, or as a double, a point in time also from a
text.  `Bson.Reads` lists what it accepts, with one case for each kind of type, and
`decodeValue_eq_ok_iff` says that under the standard rules it accepts nothing else.  What all
readings have in common is then an induction on the reading, which follows the stored value down
through nested records of any depth.
-/
import Dossier.Proofs.Converter.RoundTrip

namespace Dossier

namespace Bson

/-! ## 1. Readings -/

/-- What a stored value reads as, for a type without parts. -/
inductive ReadsPlain : FieldType → Bson → Value → Prop where
  | bool (value : Bool) : ReadsPlain .bool (.boolean value) (.bool value)
  | int32 (value : Int32) : ReadsPlain .int32 (.int32 value) (.int32 value)
  | narrowed (value : Int64) (low : Int32.minValue.toInt ≤ value.toInt)
      (high : value.toInt ≤ Int32.maxValue.toInt) :
      ReadsPlain .int32 (.int64 value) (.int32 value.toInt32)
  | int64 (value : Int64) : ReadsPlain .int64 (.int64 value) (.int64 value)
  | widened (value : Int32) : ReadsPlain .int64 (.int32 value) (.int64 value.toInt64)
  | double (value : Double) : ReadsPlain .double (.double value) (.double value)
  | doubleOfInt32 (value : Int32) :
      ReadsPlain .double (.int32 value) (.double (Double.ofInt value.toInt))
  | doubleOfInt64 (value : Int64) :
      ReadsPlain .double (.int64 value) (.double (Double.ofInt value.toInt))
  | string (value : String) : ReadsPlain .string (.string value) (.string value)
  | date (millis : Int64) : ReadsPlain .date (.date millis) (.date millis)
  | instant (millis : Int64) :
      ReadsPlain .instant (.date millis) (.instant (Instant.ofMillis millis.toInt))
  | instantText {text : String} {t : Instant} (h : Instant.parse? text = some t) :
      ReadsPlain .instant (.string text) (.instant t)
  | timestamp {millis : Int64} {t : Timestamp} (h : Timestamp.ofMillis millis = .ok t) :
      ReadsPlain .timestamp (.date millis) (.timestamp t)
  | timestampText {text : String} {t : Instant} (h : Instant.parse? text = some t)
      (hvalid : (Timestamp.ofInstant t).Valid) :
      ReadsPlain .timestamp (.string text) (.timestamp (Timestamp.ofInstant t))

/-- What a stored value reads as.  Items and fields are read one by one; a field is read from what
stands under its key, and from null if nothing does. -/
inductive Reads (types : Schema) : FieldType → Bson → Value → Prop where
  | plain {type : FieldType} {stored : Bson} {value : Value} (h : ReadsPlain type stored value) :
      Reads types type stored value
  | absent (inner : FieldType) : Reads types (.optional inner) .null .null
  | present {inner : FieldType} {stored : Bson} {value : Value} (hstored : stored.isNull = false)
      (h : Reads types inner stored value) : Reads types (.optional inner) stored value
  | seq {inner : FieldType} {items : List Bson} {values : List Value}
      (hlength : items.length = values.length)
      (h : ∀ item value, (item, value) ∈ items.zip values → Reads types inner item value) :
      Reads types (.seq inner) (.array items) (.seq values)
  | set {inner : FieldType} {items : List Bson} {values : List Value}
      (hlength : items.length = values.length)
      (h : ∀ item value, (item, value) ∈ items.zip values → Reads types inner item value) :
      Reads types (.set inner) (.array items) (.seq values)
  | record {id : RecordId} {descriptor : RecordDescriptor} {d : Document} {values : List Value}
      (hdescriptor : describeNested (types id) = .ok descriptor)
      (hlength : descriptor.fields.length = values.length)
      (h : ∀ field value, (field, value) ∈ descriptor.fields.zip values →
        Reads types field.type (d.getOrNull field.key) value) :
      Reads types (.record id) (.document d) (.record values)

theorem isNull_iff {stored : Bson} : stored.isNull = true ↔ stored = .null := by
  cases stored <;> simp [isNull]

/-- Items that are read one by one make a sequence, and a set. -/
theorem Reads.ofItems {types : Schema} {inner : FieldType} {items : List Bson} {values : List Value}
    (h : List.Forall₂ (Reads types inner) items values) :
    Reads types (.seq inner) (.array items) (.seq values) ∧
      Reads types (.set inner) (.array items) (.seq values) := by
  obtain ⟨hlength, hread⟩ := List.forall₂_iff_zip.mp h
  exact ⟨.seq hlength fun _ _ => hread, .set hlength fun _ _ => hread⟩

theorem Reads.ofFields {types : Schema} {id : RecordId} {descriptor : RecordDescriptor}
    {d : Document} {values : List Value}
    (hdescriptor : describeNested (types id) = .ok descriptor)
    (h : List.Forall₂ (fun field value => Reads types field.type (d.getOrNull field.key) value)
      descriptor.fields values) : Reads types (.record id) (.document d) (.record values) := by
  obtain ⟨hlength, hread⟩ := List.forall₂_iff_zip.mp h
  exact .record hdescriptor hlength fun _ _ => hread

end Bson

section

variable {types : Schema}

/-! ## 2. Decoding is reading -/

theorem readInstant_eq_ok_iff {text : String} {t : Instant} :
    TypeRule.readInstant text = .ok t ↔ Instant.parse? text = some t := by
  unfold TypeRule.readInstant
  cases Instant.parse? text with
  | none => exact iff_of_false (by rintro ⟨⟩) (by rintro ⟨⟩)
  | some u => simp

theorem decodeInstant_eq_ok_iff {stored : Bson} {value : Value} :
    TypeRule.decodeInstant stored = .ok value ↔ Bson.ReadsPlain .instant stored value := by
  constructor
  · intro h
    cases stored with
    | date millis =>
      cases h
      exact .instant millis
    | string text =>
      rw [TypeRule.decodeInstant] at h
      cases ht : TypeRule.readInstant text with
      | error e => rw [ht] at h; cases h
      | ok t =>
        rw [ht] at h
        cases h
        exact .instantText (readInstant_eq_ok_iff.mp ht)
    | _ => cases h
  · intro h
    cases h with
    | instant millis => rfl
    | instantText h =>
      rw [TypeRule.decodeInstant, readInstant_eq_ok_iff.mpr h]
      rfl

theorem decodeTimestamp_eq_ok_iff {stored : Bson} {value : Value} :
    TypeRule.decodeTimestamp stored = .ok value ↔ Bson.ReadsPlain .timestamp stored value := by
  constructor
  · intro h
    cases stored with
    | date millis =>
      rw [TypeRule.decodeTimestamp] at h
      cases ht : Timestamp.ofMillis millis with
      | error e => rw [ht] at h; cases h
      | ok t =>
        rw [ht] at h
        cases h
        exact .timestamp ht
    | string text =>
      obtain ⟨t, ht, hvalidate⟩ := bind_eq_ok_iff.mp h
      obtain ⟨_, hvalid, hvalue⟩ := bind_eq_ok_iff.mp hvalidate
      cases hvalue
      exact .timestampText (readInstant_eq_ok_iff.mp ht) (Timestamp.validate_eq_ok_iff.mp hvalid)
    | _ => cases h
  · intro h
    cases h with
    | timestamp h =>
      rw [TypeRule.decodeTimestamp, h]
      rfl
    | timestampText h hvalid =>
      exact bind_eq_ok_iff.mpr ⟨_, readInstant_eq_ok_iff.mpr h,
        bind_eq_ok_iff.mpr ⟨(), Timestamp.validate_eq_ok_iff.mpr hvalid, rfl⟩⟩

theorem decodeValue_instant (stored : Bson) :
    decodeValue types TypeRule.standard (nestedDescriptor types) .instant stored =
      TypeRule.decodeInstant stored := by
  rw [decodeValue_of_rule rfl]
  rfl

theorem decodeValue_timestamp (stored : Bson) :
    decodeValue types TypeRule.standard (nestedDescriptor types) .timestamp stored =
      TypeRule.decodeTimestamp stored := by
  rw [decodeValue_of_rule rfl]
  rfl

/-- An integer is narrowed exactly if it fits. -/
theorem narrow_eq_ok_iff {n : Int64} {value : Value} :
    (narrow types n : Except ConversionError Value) = .ok value ↔
      (Int32.minValue.toInt ≤ n.toInt ∧ n.toInt ≤ Int32.maxValue.toInt) ∧
        value = .int32 n.toInt32 := by
  unfold narrow
  split
  · rename_i h
    rw [pure_eq_ok_iff, and_iff_right h]
  · rename_i h
    exact iff_of_false (by rintro ⟨⟩) fun hfits => h hfits.1

theorem Bson.ReadsPlain.decodeValue_eq {type : FieldType} {stored : Bson} {value : Value}
    (h : Bson.ReadsPlain type stored value) :
    decodeValue types TypeRule.standard (nestedDescriptor types) type stored = .ok value := by
  cases h with
  | instant millis =>
    rw [decodeValue_instant]
    exact decodeInstant_eq_ok_iff.mpr (.instant millis)
  | instantText h =>
    rw [decodeValue_instant]
    exact decodeInstant_eq_ok_iff.mpr (.instantText h)
  | timestamp h =>
    rw [decodeValue_timestamp]
    exact decodeTimestamp_eq_ok_iff.mpr (.timestamp h)
  | timestampText h hvalid =>
    rw [decodeValue_timestamp]
    exact decodeTimestamp_eq_ok_iff.mpr (.timestampText h hvalid)
  | narrowed n low high =>
    rw [decodeValue.eq_def]
    exact narrow_eq_ok_iff.mpr ⟨⟨low, high⟩, rfl⟩
  | _ =>
    rw [decodeValue.eq_def]
    rfl

theorem Bson.Reads.decodeValue_eq {type : FieldType} {stored : Bson} {value : Value}
    (h : Bson.Reads types type stored value) :
    decodeValue types TypeRule.standard (nestedDescriptor types) type stored = .ok value := by
  induction h with
  | plain h => exact h.decodeValue_eq
  | absent inner => exact decodeValue_optional_null inner
  | present hstored _ ih => exact (decodeValue_optional hstored).trans ih
  | seq hlength _ ih =>
    exact decodeValue_seq_eq_ok_iff.mpr ⟨_, decodeItems_eq_ok_iff.mpr
      (List.forall₂_iff_zip.mpr ⟨hlength, ih _ _⟩), rfl⟩
  | set hlength _ ih =>
    rw [decodeValue_set]
    exact decodeValue_seq_eq_ok_iff.mpr ⟨_, decodeItems_eq_ok_iff.mpr
      (List.forall₂_iff_zip.mpr ⟨hlength, ih _ _⟩), rfl⟩
  | record hdescriptor hlength _ ih =>
    exact decodeValue_record_eq_ok_iff.mpr ⟨_, _, hdescriptor, decodeFields_eq_ok_iff.mpr
      (List.forall₂_iff_zip.mpr ⟨hlength, ih _ _⟩), rfl⟩

/-- The type's values consist of others. -/
def FieldType.hasParts : FieldType → Bool
  | .optional _ | .seq _ | .set _ | .record _ => true
  | _ => false

theorem Bson.readsPlain_of_decodeValue {type : FieldType} {stored : Bson} {value : Value}
    (hparts : type.hasParts = false)
    (h : decodeValue types TypeRule.standard (nestedDescriptor types) type stored = .ok value) :
    Bson.ReadsPlain type stored value := by
  cases type with
  | optional _ => cases hparts
  | seq _ => cases hparts
  | set _ => cases hparts
  | record _ => cases hparts
  | instant => exact decodeInstant_eq_ok_iff.mp (decodeValue_instant stored ▸ h)
  | timestamp => exact decodeTimestamp_eq_ok_iff.mp (decodeValue_timestamp stored ▸ h)
  | bool =>
    rw [decodeValue.eq_def] at h
    cases stored <;> cases h
    exact .bool _
  | int32 =>
    rw [decodeValue.eq_def] at h
    cases stored with
    | int32 n =>
      cases h
      exact .int32 n
    | int64 n =>
      obtain ⟨⟨low, high⟩, rfl⟩ := narrow_eq_ok_iff.mp h
      exact .narrowed n low high
    | _ => cases h
  | int64 =>
    rw [decodeValue.eq_def] at h
    cases stored with
    | int32 n =>
      cases h
      exact .widened n
    | int64 n =>
      cases h
      exact .int64 n
    | _ => cases h
  | double =>
    rw [decodeValue.eq_def] at h
    cases stored with
    | double x =>
      cases h
      exact .double x
    | int32 n =>
      cases h
      exact .doubleOfInt32 n
    | int64 n =>
      cases h
      exact .doubleOfInt64 n
    | _ => cases h
  | string =>
    rw [decodeValue.eq_def] at h
    cases stored <;> cases h
    exact .string _
  | date =>
    rw [decodeValue.eq_def] at h
    cases stored <;> cases h
    exact .date _
  | custom name =>
    rw [decodeValue.eq_def] at h
    cases stored <;> cases h

/-- The induction is on the stored value, and inside it on the type, which loses a layer where a
value is optional and the stored value stays the same. -/
theorem Bson.reads_of_decodeValue {type : FieldType} {stored : Bson} {value : Value}
    (h : decodeValue types TypeRule.standard (nestedDescriptor types) type stored = .ok value) :
    Bson.Reads types type stored value := by
  induction hsize : sizeOf stored using Nat.strongRecOn generalizing type stored value with
  | ind size ih =>
    subst hsize
    have hitems {inner : FieldType} {items : List Bson} {values : List Value}
        (hsmall : sizeOf items < sizeOf stored)
        (hdecode : decodeItems types TypeRule.standard (nestedDescriptor types) inner items =
          .ok values) :
        items.length = values.length ∧
          ∀ item value, (item, value) ∈ items.zip values → Bson.Reads types inner item value := by
      obtain ⟨hlength, hread⟩ := List.forall₂_iff_zip.mp (decodeItems_eq_ok_iff.mp hdecode)
      refine ⟨hlength, fun item value hmem => ih _ ?_ (hread hmem) rfl⟩
      exact Nat.lt_trans (List.sizeOf_lt_of_mem (List.of_mem_zip hmem).1) hsmall
    induction type with
    | optional inner ihinner =>
      cases hnull : stored.isNull with
      | true =>
        rw [Bson.isNull_iff.mp hnull] at h ⊢
        rw [decodeValue_optional_null] at h
        cases h
        exact .absent inner
      | false =>
        rw [decodeValue_optional hnull] at h
        exact .present hnull (ihinner h)
    | seq inner =>
      cases stored with
      | array items =>
        obtain ⟨values, hdecode, rfl⟩ := decodeValue_seq_eq_ok_iff.mp h
        obtain ⟨hlength, hread⟩ := hitems (by simp) hdecode
        exact .seq hlength hread
      | _ => rw [decodeValue.eq_def] at h; cases h
    | set inner =>
      cases stored with
      | array items =>
        rw [decodeValue_set] at h
        obtain ⟨values, hdecode, rfl⟩ := decodeValue_seq_eq_ok_iff.mp h
        obtain ⟨hlength, hread⟩ := hitems (by simp) hdecode
        exact .set hlength hread
      | _ => rw [decodeValue.eq_def] at h; cases h
    | record id =>
      cases stored with
      | document d =>
        obtain ⟨descriptor, values, hdescriptor, hdecode, rfl⟩ := decodeValue_record_eq_ok_iff.mp h
        obtain ⟨hlength, hread⟩ := List.forall₂_iff_zip.mp (decodeFields_eq_ok_iff.mp hdecode)
        refine .record hdescriptor hlength fun field value hmem => ih _ ?_ (hread hmem) rfl
        have hle := Document.sizeOf_getOrNull_le d field.key
        simp only [Bson.document.sizeOf_spec]
        omega
      | _ => rw [decodeValue.eq_def] at h; cases h
    | _ => exact .plain (Bson.readsPlain_of_decodeValue rfl h)

/-- **Decoding accepts what can be read, and gives what it reads as.** -/
theorem decodeValue_eq_ok_iff {type : FieldType} {stored : Bson} {value : Value} :
    decodeValue types TypeRule.standard (nestedDescriptor types) type stored = .ok value ↔
      Bson.Reads types type stored value :=
  ⟨Bson.reads_of_decodeValue, Bson.Reads.decodeValue_eq⟩

/-- Decoding a record reads each field from what stands under its key. -/
theorem decodeFields_eq_ok_iff_reads {fields : List FieldDescriptor} {d : Document}
    {values : List Value} :
    decodeFields types TypeRule.standard (nestedDescriptor types) fields d = .ok values ↔
      fields.length = values.length ∧ ∀ field value, (field, value) ∈ fields.zip values →
        Bson.Reads types field.type (d.getOrNull field.key) value := by
  simp only [decodeFields_eq_ok_iff, decodeValue_eq_ok_iff, List.forall₂_iff_zip]

end

end Dossier
