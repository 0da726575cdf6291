/-
# What a record keeps of its values

A record that is rebuilt field by field takes every value of its type (`HasType.exists_read`), and a
field keeps null for null alone (`HasType.isNull_read`).  Whether it is rebuilt or not, a record
keeps one value for each field, and which one depends on that field's value only
(`RecordType.accept_eq_ok_iff`).  Sets apart, it is that value itself (`HasType.read_eq_self`).
-/
import Dossier.Proofs.Converter.Parts
import Dossier.Proofs.Record.Typing

namespace Dossier

/-! ## 1. Single fields -/

namespace Value

variable {types : Schema}

/-- Items are read if each of them is. -/
theorem exists_readItems {type : FieldType} {items : List Value}
    (h : ∀ item ∈ items, ∃ kept, read types type item = .ok kept) :
    ∃ kept, readItems types type items = .ok kept := by
  induction items with
  | nil => exact ⟨_, by rw [readItems]⟩
  | cons item rest ih =>
    obtain ⟨⟨first, hfirst⟩, hrest⟩ := List.forall_mem_cons.mp h
    obtain ⟨kept, hkept⟩ := ih hrest
    exact ⟨_, by rw [readItems, hfirst, hkept]⟩

/-- Fields are read if each has a value, and that is read. -/
theorem exists_readFields {fields : List FieldSpec} {values : List Value}
    (h : List.Forall₂ (fun type value => ∃ kept, read types type value = .ok kept)
      (fields.map FieldSpec.type) values) : ∃ kept, readFields types fields values = .ok kept := by
  induction fields generalizing values with
  | nil => exact ⟨_, by rw [readFields]⟩
  | cons field fields ih =>
    cases h with
    | cons hfirst hrest =>
      obtain ⟨first, hfirst⟩ := hfirst
      obtain ⟨kept, hkept⟩ := ih hrest
      exact ⟨_, by rw [readFields, hfirst, claimedBy_ok, hkept]⟩

theorem read_optional {inner : FieldType} {value : Value} (h : value.isNull = false) :
    read types (.optional inner) value = read types inner value := by
  rw [read]
  rintro rfl
  cases h

/-- **A field takes every value of its type.** -/
theorem HasType.exists_read {type : FieldType} {value : Value} (h : HasType types type value) :
    ∃ kept, read types type value = .ok kept := by
  induction h using HasType.induction with
  | plain h => cases h <;> exact ⟨_, by rw [read]⟩
  | absent inner => exact ⟨_, by rw [read]⟩
  | @present inner value h ih =>
    cases hnull : value.isNull with
    | true => exact ⟨_, by rw [isNull_iff.mp hnull, read]⟩
    | false => rwa [read_optional hnull]
  | seq h ih =>
    obtain ⟨kept, hkept⟩ := exists_readItems ih
    exact ⟨_, by rw [read, hkept]⟩
  | set h ih =>
    obtain ⟨kept, hkept⟩ := exists_readItems ih
    exact ⟨_, by rw [read, hkept]⟩
  | record h ih =>
    rw [read]
    split
    · obtain ⟨kept, hkept⟩ := exists_readFields (ih.imp fun _ _ hvalue => hvalue.2)
      exact ⟨_, by rw [hkept]⟩
    · exact ⟨_, rfl⟩

/-- A field keeps null for null alone. -/
theorem HasType.isNull_read {type : FieldType} {value kept : Value} (h : HasType types type value)
    (hread : read types type value = .ok kept) : kept.isNull = value.isNull := by
  induction h using HasType.induction with
  | plain h =>
    cases h <;>
    · rw [read] at hread
      cases hread
      rfl
  | absent inner =>
    rw [read] at hread
    cases hread
    rfl
  | @present inner value h ih =>
    cases hnull : value.isNull with
    | true =>
      rw [isNull_iff.mp hnull, read] at hread
      cases hread
      rfl
    | false =>
      rw [read_optional hnull] at hread
      rw [ih hread, hnull]
  | seq h ih =>
    rw [read] at hread
    split at hread <;> cases hread
    rfl
  | set h ih =>
    rw [read] at hread
    split at hread <;> cases hread
    rfl
  | record h ih =>
    rw [read] at hread
    split at hread
    · split at hread <;> cases hread
      rfl
    · cases hread
      rfl

end Value

/-! ## 2. Records -/

namespace RecordType

variable {types : Schema} {record : RecordType}

/-- The value of a field in the form in which the record keeps it. -/
def acceptField (types : Schema) (record : RecordType) (type : FieldType) (value : Value) :
    Except ConversionError Value :=
  if record.checked then value.read types type else .ok value

theorem exists_acceptField {type : FieldType} {value : Value} (h : value.HasType types type) :
    ∃ kept, record.acceptField types type value = .ok kept ∧ kept.isNull = value.isNull := by
  unfold acceptField
  split
  · obtain ⟨kept, hkept⟩ := h.exists_read
    exact ⟨kept, hkept, h.isNull_read hkept⟩
  · exact ⟨value, rfl, rfl⟩

theorem readFields_cons (field : FieldSpec) (fields : List FieldSpec) (value : Value)
    (rest : List Value) :
    Value.readFields types (field :: fields) (value :: rest) =
      do return (← claimedBy field.name (value.read types field.type)) ::
        (← Value.readFields types fields rest) := by
  rw [Value.readFields]
  cases claimedBy field.name (value.read types field.type) with
  | error e => rfl
  | ok first =>
    cases Value.readFields types fields rest with
    | error e => rfl
    | ok others => rfl

theorem readFields_eq_ok_iff {fields : List FieldSpec} {values kept : List Value}
    (hlength : values.length = fields.length) :
    Value.readFields types fields values = .ok kept ↔
      List.Forall₂ (fun (pair : FieldType × Value) k => pair.2.read types pair.1 = .ok k)
        ((fields.map FieldSpec.type).zip values) kept := by
  induction fields generalizing values kept with
  | nil =>
    rw [Value.readFields, List.map_nil, List.zip_nil_left, List.forall₂_nil_left_iff, eq_comm]
    exact (Except.ok.injEq ..).to_iff
  | cons field fields ih =>
    cases values with
    | nil => cases hlength
    | cons value rest =>
      rw [readFields_cons, cons_eq_ok_iff, List.map_cons, List.zip_cons_cons,
        List.forall₂_cons_left_iff]
      simp only [claimedBy_eq_ok_iff, ih (Nat.succ.inj hlength)]

/-- **A record keeps one value for each field, that of the field's value.** -/
theorem accept_eq_ok_iff {values kept : List Value}
    (hlength : values.length = record.fields.length) :
    record.accept types values = .ok kept ↔
      List.Forall₂ (fun (pair : FieldType × Value) k =>
          record.acceptField types pair.1 pair.2 = .ok k)
        ((record.fields.map FieldSpec.type).zip values) kept := by
  unfold accept acceptField
  split
  · exact readFields_eq_ok_iff hlength
  · simp only [Except.ok.injEq]
    have hzip : ((record.fields.map FieldSpec.type).zip values).map Prod.snd = values :=
      List.map_snd_zip (Nat.le_of_eq (by rw [List.length_map, hlength]))
    rw [← List.forall₂_map_left_iff, hzip, List.forall₂_eq_eq_eq]

theorem Takes.length_eq {values : List Value} (h : record.Takes types values) :
    values.length = record.fields.length := by
  rw [← List.Forall₂.length_eq h, List.length_map]

theorem Takes.exists_accept {values : List Value} (h : record.Takes types values) :
    ∃ kept, record.accept types values = .ok kept := by
  simp only [accept_eq_ok_iff h.length_eq]
  unfold Takes at h
  generalize record.fields.map FieldSpec.type = fields at h
  induction h with
  | nil => exact ⟨[], .nil⟩
  | cons hvalue _ ih =>
    obtain ⟨kept, hkept⟩ := ih
    obtain ⟨first, hfirst, -⟩ := exists_acceptField hvalue
    exact ⟨first :: kept, .cons hfirst hkept⟩

end RecordType

/-! ## 3. Records without sets -/

/-- A field of the first type can have values of the second in it, at any depth. -/
inductive FieldType.Contains (types : Schema) : FieldType → FieldType → Prop where
  | self (type : FieldType) : Contains types type type
  | optional {inner other : FieldType} (h : Contains types inner other) :
      Contains types (.optional inner) other
  | seq {inner other : FieldType} (h : Contains types inner other) :
      Contains types (.seq inner) other
  | set {inner other : FieldType} (h : Contains types inner other) :
      Contains types (.set inner) other
  | record {id : RecordId} {field : FieldSpec} {other : FieldType}
      (hmem : field ∈ (types id).fields) (h : Contains types field.type other) :
      Contains types (.record id) other

/-- There are no sets in a field of the type. -/
def FieldType.SetFree (types : Schema) (type : FieldType) : Prop :=
  ∀ inner, ¬ type.Contains types (.set inner)

/-- Whether the type shows a set, without a look into records. -/
def FieldType.hasSet : FieldType → Bool
  | .set _ => true
  | .optional inner => inner.hasSet
  | .seq inner => inner.hasSet
  | _ => false

section

variable {types : Schema}

theorem FieldType.setFree_of_hasSet
    (hfields : ∀ id, ∀ field ∈ (types id).fields, field.type.hasSet = false) {type : FieldType}
    (htype : type.hasSet = false) : type.SetFree types := by
  intro inner h
  generalize hother : FieldType.set inner = other at h
  induction h with
  | self => subst hother; cases htype
  | optional _ ih => exact ih htype hother
  | seq _ ih => exact ih htype hother
  | set => cases htype
  | record hmem _ ih => exact ih (hfields _ _ hmem) hother

theorem Value.readItems_eq_self {type : FieldType} {items : List Value}
    (h : ∀ item ∈ items, item.read types type = .ok item) :
    readItems types type items = .ok items := by
  induction items with
  | nil => rw [readItems]
  | cons item rest ih =>
    obtain ⟨hfirst, hrest⟩ := List.forall_mem_cons.mp h
    rw [readItems, hfirst, ih hrest]

/-- A record without sets keeps values that its fields keep. -/
theorem Value.readFields_eq_self {fields : List FieldSpec} {values : List Value}
    (hfree : ∀ field ∈ fields, field.type.SetFree types)
    (h : List.Forall₂ (fun type value => type.SetFree types → value.read types type = .ok value)
      (fields.map FieldSpec.type) values) : readFields types fields values = .ok values := by
  induction fields generalizing values with
  | nil =>
    cases h
    rw [readFields]
  | cons field fields ih =>
    obtain ⟨hfirst, hrest⟩ := List.forall_mem_cons.mp hfree
    cases h with
    | cons hvalue hvalues =>
      rw [readFields, hvalue hfirst, claimedBy_ok, ih hrest hvalues]

theorem FieldType.SetFree.fields {id : RecordId} (h : (FieldType.record id).SetFree types) :
    ∀ field ∈ (types id).fields, field.type.SetFree types :=
  fun _ hmem other hother => h other (.record hmem hother)

/-- **A field without sets keeps every value of its type as it is.** -/
theorem Value.HasType.read_eq_self {type : FieldType} {value : Value} (h : HasType types type value)
    (hfree : type.SetFree types) : value.read types type = .ok value := by
  induction h using Value.HasType.induction with
  | plain h => cases h <;> rw [read]
  | absent inner => rw [read]
  | @present inner value h ih =>
    cases hnull : value.isNull with
    | true => rw [isNull_iff.mp hnull, read]
    | false =>
      rw [read_optional hnull]
      exact ih fun other hother => hfree other (.optional hother)
  | seq h ih =>
    rw [read, readItems_eq_self fun item hmem => ih item hmem fun other hother =>
      hfree other (.seq hother)]
  | set h ih => exact absurd (.self _) (hfree _)
  | record h ih =>
    rw [read]
    split
    · rw [readFields_eq_self hfree.fields (ih.imp fun _ _ hvalue => hvalue.2)]
    · rfl

end

end Dossier
