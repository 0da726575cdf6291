/-
# Which field a mismatch names

A value that does not fit fails without a path.  On its way out the error passes the fields that the
value lies in, and each puts its name in front of the path; optional values and items pass it on as
it is.  An empty path stands for an error that no field has claimed, so that this goes right depends
on fields having names.

What comes out is told by where the conversion stopped, without any strings.  `Bson.Misfit` says
what does not fit a type by itself, and `Bson.FailsAt` leads to the first such value along a chain
of fields: whatever is read before it, on each level, is converted.  Conversions end with a mismatch
exactly if there is such a chain (`decodeValue_eq_mismatch_iff`), and the path is made of it.

Main statement: `Converter.mismatch_named`.
-/
import Dossier.Proofs.Converter.Precedence

namespace Dossier

/-! ## 1. Parts of a value -/

section

variable {types : Schema}

theorem decodeValue_seq_eq_error_iff {inner : FieldType} {items : List Bson}
    {e : ConversionError} :
    decodeValue types TypeRule.standard (nestedDescriptor types) (.seq inner) (.array items) =
        .error e ↔
      decodeItems types TypeRule.standard (nestedDescriptor types) inner items = .error e := by
  rw [decodeValue.eq_def]
  exact bind_pure_eq_error_iff

theorem decodeValue_record_eq_error_iff {id : RecordId} {descriptor : RecordDescriptor}
    (hdescriptor : nestedDescriptor types id = .ok descriptor) {d : Document}
    {e : ConversionError} :
    decodeValue types TypeRule.standard (nestedDescriptor types) (.record id) (.document d) =
        .error e ↔
      decodeFields types TypeRule.standard (nestedDescriptor types) descriptor.fields d =
        .error e := by
  have hvalue : decodeValue types TypeRule.standard (nestedDescriptor types) (.record id)
      (.document d) = decodeFields types TypeRule.standard (nestedDescriptor types)
        descriptor.fields d >>= fun values => pure (.record values) := by
    rw [decodeValue.eq_def]
    exact congrArg (· >>= _) hdescriptor
  rw [hvalue, bind_pure_eq_error_iff]

end

/-! ## 2. Values that do not fit -/

/-- Values of the type are read from stored values of this kind.  An optional type asks what is in
it, and one that only a rule can convert asks for nothing. -/
def FieldType.readsFrom : FieldType → Bson → Bool
  | .optional _, _ | .custom _, _ => true
  | .bool, .boolean _ => true
  | .int32, .int32 _ | .int32, .int64 _ => true
  | .int64, .int32 _ | .int64, .int64 _ => true
  | .double, .double _ | .double, .int32 _ | .double, .int64 _ => true
  | .string, .string _ => true
  | .instant, .date _ | .instant, .string _ => true
  | .timestamp, .date _ | .timestamp, .string _ => true
  | .date, .date _ => true
  | .seq _, .array _ | .set _, .array _ => true
  | .record _, .document _ => true
  | _, _ => false

namespace Bson

/-- What does not fit a type by itself, and not because of a part of it. -/
inductive Misfit (types : Schema) : FieldType → Bson → Mismatch → Prop where
  | kind {type : FieldType} {stored : Bson} (h : type.readsFrom stored = false) :
      Misfit types type stored (.expected (type.text types) stored.elementType)
  | integer {n : Int64}
      (h : ¬ (Int32.minValue.toInt ≤ n.toInt ∧ n.toInt ≤ Int32.maxValue.toInt)) :
      Misfit types .int32 (.int64 n)
        (.expected (FieldType.int32.text types) ("integer " ++ toString n.toInt))

/-- The stored value is converted to a value of the type. -/
def Decodes (types : Schema) (type : FieldType) (stored : Bson) : Prop :=
  ∃ value, decodeValue types TypeRule.standard (nestedDescriptor types) type stored = .ok value

theorem exists_claimedBy_iff {types : Schema} {type : FieldType} {stored : Bson}
    (field : String) :
    (∃ value, claimedBy field (decodeValue types TypeRule.standard (nestedDescriptor types) type
      stored) = .ok value) ↔ Decodes types type stored :=
  exists_congr fun _ => claimedBy_eq_ok_iff

/-- The names lead to the field with the first value that does not fit, through nested records, and
everything before it is converted: the items before an item, and the fields before a field. -/
inductive FailsAt (types : Schema) : FieldType → Bson → List String → Mismatch → Prop where
  | here {type : FieldType} {stored : Bson} {mismatch : Mismatch}
      (h : Misfit types type stored mismatch) : FailsAt types type stored [] mismatch
  | optional {inner : FieldType} {stored : Bson} {chain : List String} {mismatch : Mismatch}
      (hstored : stored.isNull = false) (h : FailsAt types inner stored chain mismatch) :
      FailsAt types (.optional inner) stored chain mismatch
  | seq {inner : FieldType} {before after : List Bson} {item : Bson} {chain : List String}
      {mismatch : Mismatch} (hbefore : ∀ earlier ∈ before, Decodes types inner earlier)
      (h : FailsAt types inner item chain mismatch) :
      FailsAt types (.seq inner) (.array (before ++ item :: after)) chain mismatch
  | set {inner : FieldType} {before after : List Bson} {item : Bson} {chain : List String}
      {mismatch : Mismatch} (hbefore : ∀ earlier ∈ before, Decodes types inner earlier)
      (h : FailsAt types inner item chain mismatch) :
      FailsAt types (.set inner) (.array (before ++ item :: after)) chain mismatch
  | field {id : RecordId} {descriptor : RecordDescriptor} {d : Document}
      {before after : List FieldDescriptor} {field : FieldDescriptor} {chain : List String}
      {mismatch : Mismatch} (hdescriptor : describeNested (types id) = .ok descriptor)
      (hfields : descriptor.fields = before ++ field :: after)
      (hbefore : ∀ earlier ∈ before, Decodes types earlier.type (d.getOrNull earlier.key))
      (h : FailsAt types field.type (d.getOrNull field.key) chain mismatch) :
      FailsAt types (.record id) (.document d) (field.name :: chain) mismatch

end Bson

section

variable {types : Schema} {type : FieldType} {stored : Bson} {mismatch : Mismatch}

theorem narrow_eq_error_iff {n : Int64} {e : ConversionError} :
    (narrow types n : Except ConversionError Value) = .error e ↔
      ¬ (Int32.minValue.toInt ≤ n.toInt ∧ n.toInt ≤ Int32.maxValue.toInt) ∧
        e = .expected (FieldType.int32.text types) ("integer " ++ toString n.toInt) := by
  unfold narrow
  split
  · rename_i h
    exact iff_of_false (by rintro ⟨⟩) fun hfits => hfits.1 h
  · rename_i h
    rw [and_iff_right h, eq_comm]
    exact (Except.error.injEq _ _).to_iff

/-- What does not fit by itself fails without a path. -/
theorem Bson.Misfit.decodeValue_eq (h : Bson.Misfit types type stored mismatch) :
    decodeValue types TypeRule.standard (nestedDescriptor types) type stored =
      .error (.fieldMismatch "" mismatch) := by
  cases h with
  | integer h =>
    rw [decodeValue.eq_def]
    exact narrow_eq_error_iff.mpr ⟨h, rfl⟩
  | kind h =>
    cases type with
    | instant =>
      rw [decodeValue_instant]
      cases stored <;> first | rfl | cases h
    | timestamp =>
      rw [decodeValue_timestamp]
      cases stored <;> first | rfl | cases h
    | _ =>
      rw [decodeValue.eq_def]
      cases stored <;> first | rfl | cases h

theorem Timestamp.badTimestamp_of_validate {t : Timestamp} {e : ConversionError}
    (h : t.validate = .error e) : ∃ fault, e = .badTimestamp fault := by
  unfold validate at h
  split at h
  · cases h
    exact ⟨_, rfl⟩
  · split at h
    · cases h
      exact ⟨_, rfl⟩
    · cases h

theorem Timestamp.badTimestamp_of_ofMillis {millis : Int64} {e : ConversionError}
    (h : Timestamp.ofMillis millis = .error e) : ∃ fault, e = .badTimestamp fault :=
  badTimestamp_of_validate (bind_pure_eq_error_iff.mp h)

theorem badTimestamp_of_readInstant {text : String} {e : ConversionError}
    (h : TypeRule.readInstant text = .error e) : ∃ fault, e = .badTimestamp fault := by
  unfold TypeRule.readInstant at h
  split at h
  · cases h
  · cases h
    exact ⟨_, rfl⟩

/-- A date or a text that is no point in time is not reported as a mismatch. -/
theorem badTimestamp_of_decodeInstant {e : ConversionError}
    (hreads : FieldType.instant.readsFrom stored = true)
    (h : TypeRule.decodeInstant stored = .error e) : ∃ fault, e = .badTimestamp fault := by
  cases stored with
  | date millis => cases h
  | string text => exact badTimestamp_of_readInstant (bind_pure_eq_error_iff.mp h)
  | _ => cases hreads

theorem badTimestamp_of_decodeTimestamp {e : ConversionError}
    (hreads : FieldType.timestamp.readsFrom stored = true)
    (h : TypeRule.decodeTimestamp stored = .error e) : ∃ fault, e = .badTimestamp fault := by
  cases stored with
  | date millis => exact Timestamp.badTimestamp_of_ofMillis (bind_pure_eq_error_iff.mp h)
  | string text =>
    rcases bind_eq_error_iff.mp h with hread | ⟨t, -, hvalidate⟩
    · exact badTimestamp_of_readInstant hread
    · exact Timestamp.badTimestamp_of_validate (bind_pure_eq_error_iff.mp hvalidate)
  | _ => cases hreads

theorem Bson.misfit_of_readsFrom {path : String} (hreads : type.readsFrom stored = false)
    (h : decodeValue types TypeRule.standard (nestedDescriptor types) type stored =
      .error (.fieldMismatch path mismatch)) :
    path = "" ∧ Bson.Misfit types type stored mismatch := by
  rw [(Misfit.kind hreads).decodeValue_eq] at h
  cases h
  exact ⟨rfl, .kind hreads⟩

/-- Conversely, a mismatch at a type without parts comes from the value itself. -/
theorem Bson.misfit_of_decodeValue {path : String} (hparts : type.hasParts = false)
    (h : decodeValue types TypeRule.standard (nestedDescriptor types) type stored =
      .error (.fieldMismatch path mismatch)) :
    path = "" ∧ Bson.Misfit types type stored mismatch := by
  cases hreads : type.readsFrom stored with
  | false => exact misfit_of_readsFrom hreads h
  | true =>
    -- Of the kinds that are read, only integers that are too wide end with a mismatch.
    cases type with
    | instant =>
      rw [decodeValue_instant] at h
      obtain ⟨fault, ⟨⟩⟩ := badTimestamp_of_decodeInstant hreads h
    | timestamp =>
      rw [decodeValue_timestamp] at h
      obtain ⟨fault, ⟨⟩⟩ := badTimestamp_of_decodeTimestamp hreads h
    | int32 =>
      rw [decodeValue.eq_def] at h
      cases stored with
      | int64 n =>
        obtain ⟨hwide, heq⟩ := narrow_eq_error_iff.mp h
        cases heq
        exact ⟨rfl, .integer hwide⟩
      | _ => first | exact absurd hreads Bool.false_ne_true | cases h
    | optional _ => cases hparts
    | seq _ => cases hparts
    | set _ => cases hparts
    | record _ => cases hparts
    | _ =>
      rw [decodeValue.eq_def] at h
      cases stored <;> first | exact absurd hreads Bool.false_ne_true | cases h

/-! ## 3. Paths -/

/-- The path that a mismatch has when all of these fields have claimed it. -/
def claimedPath : List String → String
  | [] => ""
  | name :: rest => if claimedPath rest = "" then name else name ++ "." ++ claimedPath rest

theorem intercalate_ne_empty {name : String} {rest : List String} (h : name ≠ "") :
    ".".intercalate (name :: rest) ≠ "" := by
  cases rest with
  | nil => rwa [String.intercalate_singleton]
  | cons next rest =>
    rw [String.intercalate_cons_of_ne_nil (List.cons_ne_nil next rest), Ne,
      String.append_eq_empty_iff, String.append_eq_empty_iff]
    exact fun hempty => h hempty.1.1

/-- With names for all fields, the path is their names with dots between them. -/
theorem claimedPath_eq_intercalate {names : List String} (h : ∀ name ∈ names, name ≠ "") :
    claimedPath names = ".".intercalate names := by
  induction names with
  | nil => rfl
  | cons name rest ih =>
    obtain ⟨hname, hrest⟩ := List.forall_mem_cons.mp h
    cases rest with
    | nil => rw [claimedPath, String.intercalate_singleton, claimedPath, if_pos rfl]
    | cons next rest =>
      have hnonempty : ".".intercalate (next :: rest) ≠ "" :=
        intercalate_ne_empty (List.forall_mem_cons.mp hrest).1
      rw [claimedPath, ih hrest, if_neg hnonempty,
        String.intercalate_cons_of_ne_nil (List.cons_ne_nil next rest)]

/-! ## 4. Where conversions stop -/

/-- The record has a descriptor where it is nested, and each of its fields has a name. -/
structure RecordType.Nestable (record : RecordType) : Prop where
  describes : ∃ descriptor, describeNested record = .ok descriptor
  named : ∀ field ∈ record.fields, field.name ≠ ""

/-- All records inside the type are nestable. -/
def FieldType.Nestable (types : Schema) (type : FieldType) : Prop :=
  ∀ id, type.Contains types (.record id) → (types id).Nestable

theorem FieldType.Nestable.fields {id : RecordId} (h : (FieldType.record id).Nestable types)
    {descriptor : RecordDescriptor} (hdescriptor : describeNested (types id) = .ok descriptor) :
    ∀ field ∈ descriptor.fields, field.type.Nestable types :=
  fun _ hfield inner hinner => h inner (.field hdescriptor hfield hinner)

/-- Each field that the names lead through has a name. -/
theorem Bson.FailsAt.named {chain : List String} (h : Bson.FailsAt types type stored chain mismatch)
    (hnested : type.Nestable types) : ∀ name ∈ chain, name ≠ "" := by
  induction h with
  | here => exact List.forall_mem_nil _
  | optional _ _ ih => exact ih fun id hinner => hnested id (.optional hinner)
  | seq _ _ ih => exact ih fun id hinner => hnested id (.seq hinner)
  | set _ _ ih => exact ih fun id hinner => hnested id (.set hinner)
  | @field id descriptor d before after field chain mismatch hdescriptor hfields _ _ ih =>
    have hmem : field ∈ descriptor.fields := hfields ▸ List.mem_append_cons_self
    obtain ⟨spec, hspec, hname, -⟩ :=
      (RecordDescriptor.Follows.of_describeNested hdescriptor).exists_spec hmem
    exact List.forall_mem_cons.mpr
      ⟨hname ▸ (hnested id (.self _)).named spec hspec, ih (hnested.fields hdescriptor field hmem)⟩

theorem Bson.FailsAt.decodeValue_eq {chain : List String}
    (h : Bson.FailsAt types type stored chain mismatch) :
    decodeValue types TypeRule.standard (nestedDescriptor types) type stored =
      .error (.fieldMismatch (claimedPath chain) mismatch) := by
  induction h with
  | here h => exact h.decodeValue_eq
  | optional hstored _ ih => exact (decodeValue_optional hstored).trans ih
  | seq hbefore _ ih =>
    exact decodeValue_seq_eq_error_iff.mpr
      (decodeItems_eq_error_iff.mpr ⟨_, _, _, rfl, hbefore, ih⟩)
  | set hbefore _ ih =>
    rw [decodeValue_set]
    exact decodeValue_seq_eq_error_iff.mpr
      (decodeItems_eq_error_iff.mpr ⟨_, _, _, rfl, hbefore, ih⟩)
  | field hdescriptor hfields hbefore _ ih =>
    exact (decodeValue_record_eq_error_iff hdescriptor).mpr
      (decodeFields_eq_error_iff.mpr ⟨_, _, _, hfields, fun earlier hearlier =>
        (exists_claimedBy_iff _).mpr (hbefore earlier hearlier),
        claimedBy_eq_mismatch_iff.mpr ⟨_, ih, rfl⟩⟩)

theorem Bson.exists_failsAt_nil {path : String}
    (h : path = "" ∧ Misfit types type stored mismatch) :
    ∃ chain, path = claimedPath chain ∧ FailsAt types type stored chain mismatch :=
  ⟨[], h.1, .here h.2⟩

/-- The induction is on the stored value, and inside it on the type, which loses a layer where a
value is optional and the stored value stays the same. -/
theorem Bson.exists_failsAt {path : String} (hnested : type.Nestable types)
    (h : decodeValue types TypeRule.standard (nestedDescriptor types) type stored =
      .error (.fieldMismatch path mismatch)) :
    ∃ chain, path = claimedPath chain ∧ FailsAt types type stored chain mismatch := by
  induction hsize : sizeOf stored using Nat.strongRecOn generalizing type stored path with
  | ind size ih =>
    subst hsize
    have hitems {inner : FieldType} {items : List Bson} (hinner : inner.Nestable types)
        (hsmall : sizeOf items < sizeOf stored)
        (hdecode : decodeItems types TypeRule.standard (nestedDescriptor types) inner items =
          .error (.fieldMismatch path mismatch)) :
        ∃ before item after chain, items = before ++ item :: after ∧
          (∀ earlier ∈ before, Decodes types inner earlier) ∧ path = claimedPath chain ∧
            FailsAt types inner item chain mismatch := by
      obtain ⟨before, item, after, rfl, hbefore, hitem⟩ := decodeItems_eq_error_iff.mp hdecode
      have hmem : item ∈ before ++ item :: after := List.mem_append_cons_self
      obtain ⟨chain, hpath, hfails⟩ :=
        ih _ (Nat.lt_trans (List.sizeOf_lt_of_mem hmem) hsmall) hinner hitem rfl
      exact ⟨before, item, after, chain, rfl, hbefore, hpath, hfails⟩
    induction type with
    | optional inner ihinner =>
      cases hnull : stored.isNull with
      | true =>
        rw [isNull_iff.mp hnull, decodeValue_optional_null] at h
        cases h
      | false =>
        rw [decodeValue_optional hnull] at h
        obtain ⟨chain, hpath, hfails⟩ := ihinner (fun id hid => hnested id (.optional hid)) h
        exact ⟨chain, hpath, .optional hnull hfails⟩
    | seq inner =>
      cases stored with
      | array items =>
        obtain ⟨before, item, after, chain, rfl, hbefore, hpath, hfails⟩ :=
          hitems (fun id hid => hnested id (.seq hid)) (by simp)
            (decodeValue_seq_eq_error_iff.mp h)
        exact ⟨chain, hpath, .seq hbefore hfails⟩
      | _ => exact exists_failsAt_nil (misfit_of_readsFrom rfl h)
    | set inner =>
      cases stored with
      | array items =>
        rw [decodeValue_set] at h
        obtain ⟨before, item, after, chain, rfl, hbefore, hpath, hfails⟩ :=
          hitems (fun id hid => hnested id (.set hid)) (by simp)
            (decodeValue_seq_eq_error_iff.mp h)
        exact ⟨chain, hpath, .set hbefore hfails⟩
      | _ => exact exists_failsAt_nil (misfit_of_readsFrom rfl h)
    | record id =>
      cases stored with
      | document d =>
        obtain ⟨descriptor, hdescriptor⟩ := (hnested id (.self _)).describes
        obtain ⟨before, field, after, hfields, hbefore, hfield⟩ :=
          decodeFields_eq_error_iff.mp ((decodeValue_record_eq_error_iff hdescriptor).mp h)
        obtain ⟨inner, hinner, rfl⟩ := claimedBy_eq_mismatch_iff.mp hfield
        have hmem : field ∈ descriptor.fields := hfields ▸ List.mem_append_cons_self
        obtain ⟨chain, rfl, hfails⟩ := ih _ (Document.sizeOf_getOrNull_lt d field.key)
          (hnested.fields hdescriptor field hmem) hinner rfl
        exact ⟨field.name :: chain, rfl, .field hdescriptor hfields (fun earlier hearlier =>
          (exists_claimedBy_iff _).mp (hbefore earlier hearlier)) hfails⟩
      | _ => exact exists_failsAt_nil (misfit_of_readsFrom rfl h)
    | _ => exact exists_failsAt_nil (misfit_of_decodeValue rfl h)

/-- **Decoding a value ends with a mismatch exactly if there is a first part that does not fit**,
and the path leads there. -/
theorem decodeValue_eq_mismatch_iff {path : String} (hnested : type.Nestable types) :
    decodeValue types TypeRule.standard (nestedDescriptor types) type stored =
        .error (.fieldMismatch path mismatch) ↔
      ∃ chain, path = claimedPath chain ∧ Bson.FailsAt types type stored chain mismatch := by
  constructor
  · exact Bson.exists_failsAt hnested
  · rintro ⟨chain, rfl, hfails⟩
    exact hfails.decodeValue_eq

theorem decodeField_eq_mismatch_iff {field : FieldDescriptor} {d : Document} {path : String}
    (hname : field.name ≠ "") (hnested : field.type.Nestable types) :
    claimedBy field.name (decodeValue types TypeRule.standard (nestedDescriptor types) field.type
        (d.getOrNull field.key)) = .error (.fieldMismatch path mismatch) ↔
      ∃ chain, Bson.FailsAt types field.type (d.getOrNull field.key) chain mismatch ∧
        path = ".".intercalate (field.name :: chain) := by
  have hjoined {chain : List String}
      (hfails : Bson.FailsAt types field.type (d.getOrNull field.key) chain mismatch) :
      claimedPath (field.name :: chain) = ".".intercalate (field.name :: chain) :=
    claimedPath_eq_intercalate (List.forall_mem_cons.mpr ⟨hname, hfails.named hnested⟩)
  simp only [claimedBy_eq_mismatch_iff, decodeValue_eq_mismatch_iff hnested]
  constructor
  · rintro ⟨_, ⟨chain, rfl, hfails⟩, rfl⟩
    exact ⟨chain, hfails, hjoined hfails⟩
  · rintro ⟨chain, hfails, rfl⟩
    exact ⟨claimedPath chain, ⟨chain, rfl, hfails⟩, (hjoined hfails).symm⟩

end

/-! ## 5. Records -/

namespace Converter

variable {c : Converter} {types : Schema} {id : RecordId} {descriptor : RecordDescriptor}

/-- **A mismatch names the first field that does not fit.**  Under the standard rules, and if all
fields have names and all nested records descriptors, a document is refused with a mismatch exactly
if there is a chain of fields, from one of the record to one whose own value does not fit, such that
on each level all fields before it, and all items before that in question, are converted.  The path
of the mismatch is made of the names of these fields, with dots between them. -/
theorem mismatch_named (hrules : c.rules = TypeRule.standard)
    (hdescribe : c.describe (types id) = .ok descriptor)
    (hnamed : ∀ field ∈ (types id).fields, field.name ≠ "")
    (hnested : ∀ field ∈ (types id).fields, field.type.Nestable types) (d : Document)
    (path : String) (mismatch : Mismatch) :
    c.decodeValues types id d = .error (.fieldMismatch path mismatch) ↔
      ∃ before field after chain, descriptor.fields = before ++ field :: after ∧
        (∀ earlier ∈ before, (d.getOrNull earlier.key).Decodes types earlier.type) ∧
        Bson.FailsAt types field.type (d.getOrNull field.key) chain mismatch ∧
        path = ".".intercalate (field.name :: chain) := by
  have hdecode : c.decodeValues types id d =
      decodeFields types TypeRule.standard (nestedDescriptor types) descriptor.fields d := by
    rw [decodeValues, hdescribe, hrules]
    rfl
  have hfield {field : FieldDescriptor} (hmem : field ∈ descriptor.fields) :
      field.name ≠ "" ∧ field.type.Nestable types := by
    obtain ⟨spec, hspec, hname, htype⟩ :=
      (RecordDescriptor.Follows.of_describe hdescribe).exists_spec hmem
    exact ⟨hname ▸ hnamed spec hspec, htype ▸ hnested spec hspec⟩
  rw [hdecode, decodeFields_eq_error_iff]
  constructor
  · rintro ⟨before, field, after, hfields, hbefore, herror⟩
    obtain ⟨hname, hnested⟩ := hfield (hfields ▸ List.mem_append_cons_self)
    obtain ⟨chain, hfails, hpath⟩ := (decodeField_eq_mismatch_iff hname hnested).mp herror
    exact ⟨before, field, after, chain, hfields, fun earlier hearlier =>
      (Bson.exists_claimedBy_iff _).mp (hbefore earlier hearlier), hfails, hpath⟩
  · rintro ⟨before, field, after, chain, hfields, hbefore, hfails, hpath⟩
    obtain ⟨hname, hnested⟩ := hfield (hfields ▸ List.mem_append_cons_self)
    exact ⟨before, field, after, hfields, fun earlier hearlier =>
      (Bson.exists_claimedBy_iff _).mpr (hbefore earlier hearlier),
        (decodeField_eq_mismatch_iff hname hnested).mpr ⟨chain, hfails, hpath⟩⟩

namespace Example

/-- The second part was last seen at no point in time. -/
def partlySeen : Document :=
  [("_id", .int32 7), ("score", .int64 3), ("codes", .array []),
    ("parts", .array [.document [("serial", .int64 8), ("score", .double ⟨0⟩),
        ("codes", .array []), ("parts", .array [])],
      .document [("serial", .int64 9), ("score", .double ⟨0⟩), ("lastSeen", .boolean true)]])]

theorem decodes_of_reads {type : FieldType} {stored : Bson} {value : Value}
    (h : Bson.Reads sensors type stored value) : stored.Decodes sensors type :=
  ⟨value, h.decodeValue_eq⟩

/-- The fields up to the one that fails, and those after it. -/
theorem fields_sensor : ∃ descriptor, describeNested (sensors 0) = .ok descriptor ∧
    descriptor.fields = [⟨"serial", .int64, "serial"⟩, ⟨"score", .double, "score"⟩] ++
      ⟨"last_seen", .optional .timestamp, "lastSeen"⟩ ::
        [⟨"codes", .set .int32, "codes"⟩, ⟨"parts", .seq (.record 0), "parts"⟩] :=
  ⟨_, rfl, rfl⟩

theorem failsAt_lastSeen : Bson.FailsAt sensors (.record 0)
    (.document [("serial", .int64 9), ("score", .double ⟨0⟩), ("lastSeen", .boolean true)])
    ["last_seen"] (.expected "Timestamp" "Boolean") := by
  obtain ⟨descriptor, hdescriptor, hfields⟩ := fields_sensor
  exact .field hdescriptor hfields
    (List.forall_mem_cons.mpr ⟨decodes_of_reads (.plain (.int64 9)),
      List.forall_mem_singleton.mpr (decodes_of_reads (.plain (.double ⟨0⟩)))⟩)
    (.optional rfl (.here (.kind rfl)))

theorem failsAt_parts : Bson.FailsAt sensors (.seq (.record 0)) (partlySeen.getOrNull "parts")
    ["last_seen"] (.expected "Timestamp" "Boolean") := by
  have hpart : Bson.Reads sensors (.record 0) (.document [("serial", .int64 8),
      ("score", .double ⟨0⟩), ("codes", .array []), ("parts", .array [])])
      (.record [.int64 8, .double ⟨0⟩, .null, .seq [], .seq []]) :=
    .ofFields rfl (.cons (.plain (.int64 8)) (.cons (.plain (.double ⟨0⟩)) (.cons (.absent _)
      (.cons (Bson.Reads.ofItems .nil).2 (.cons (Bson.Reads.ofItems .nil).1 .nil)))))
  exact .seq (List.forall_mem_singleton.mpr (decodes_of_reads hpart)) failsAt_lastSeen

theorem mismatch_named_partlySeen :
    ∃ descriptor, ({} : Converter).describe (sensors 0) = .ok descriptor ∧
      ({} : Converter).rules = TypeRule.standard ∧
      (∀ field ∈ (sensors 0).fields, field.name ≠ "" ∧ field.type.Nestable sensors) ∧
      ({} : Converter).decodeValues sensors 0 partlySeen =
        .error (.fieldMismatch "parts.last_seen" (.expected "Timestamp" "Boolean")) ∧
      ∃ before field after chain, descriptor.fields = before ++ field :: after ∧
        (∀ earlier ∈ before, (partlySeen.getOrNull earlier.key).Decodes sensors earlier.type) ∧
        Bson.FailsAt sensors field.type (partlySeen.getOrNull field.key) chain
          (.expected "Timestamp" "Boolean") ∧
        "parts.last_seen" = ".".intercalate (field.name :: chain) := by
  have hnamed : ∀ field ∈ (sensors 0).fields, field.name ≠ "" := by decide
  have hnested (id : RecordId) : (sensors id).Nestable := ⟨⟨_, rfl⟩, hnamed⟩
  obtain ⟨descriptor, hdescribe, hfields⟩ : ∃ descriptor,
      ({} : Converter).describe (sensors 0) = .ok descriptor ∧
      descriptor.fields = [⟨"serial", .int64, "_id"⟩, ⟨"score", .double, "score"⟩,
        ⟨"last_seen", .optional .timestamp, "lastSeen"⟩, ⟨"codes", .set .int32, "codes"⟩] ++
          [⟨"parts", .seq (.record 0), "parts"⟩] := ⟨_, rfl, rfl⟩
  have hearlier : ∀ earlier ∈ ([⟨"serial", .int64, "_id"⟩, ⟨"score", .double, "score"⟩,
      ⟨"last_seen", .optional .timestamp, "lastSeen"⟩, ⟨"codes", .set .int32, "codes"⟩] :
        List FieldDescriptor), (partlySeen.getOrNull earlier.key).Decodes sensors earlier.type := by
    simp only [List.forall_mem_cons]
    exact ⟨decodes_of_reads (.plain (.widened 7)), decodes_of_reads (.plain (.doubleOfInt64 3)),
      decodes_of_reads (.absent _), decodes_of_reads (Bson.Reads.ofItems .nil).2,
      List.forall_mem_nil _⟩
  have hnestable : ∀ field ∈ (sensors 0).fields, field.type.Nestable sensors :=
    fun _ _ id _ => hnested id
  have hiff := mismatch_named rfl hdescribe hnamed hnestable partlySeen "parts.last_seen"
    (.expected "Timestamp" "Boolean")
  have hdecode := hiff.mpr ⟨_, _, _, _, hfields, hearlier, failsAt_parts, by decide⟩
  exact ⟨descriptor, hdescribe, rfl, fun field hfield => ⟨hnamed field hfield,
    hnestable field hfield⟩, hdecode, hiff.mp hdecode⟩

end Example

end Converter

end Dossier
