/-
# What comes back from a document

A record that is stored and read again comes back with every point in time at millisecond
resolution, and otherwise as it was.  Two things could spoil this, at any depth:

* Two fields of a record under one key.  Then one value would be read for both.  Every descriptor
  that is built has distinct keys (`RecordDescriptor.Follows`), those of nested records included,
  and the induction carries this along.
* A value that is stored as null without being null, for null is read as a missing value.  Only
  null is stored as null (`HasType.isNull_encodeValue`).

Main statement: `Converter.decodeValues_encode` (the document has the descriptor's keys in order, in
every nested record too, and decodes to the floored values).
-/
import Dossier.Proofs.Bson.Sameness
import Dossier.Proofs.Converter.Parts
import Dossier.Proofs.Record.Typing

namespace Dossier

/-! ## 1. Descriptors follow the declaration -/

/-- The fields of the record in the order of their declaration, each under a key of its own. -/
structure RecordDescriptor.Follows (descriptor : RecordDescriptor) (record : RecordType) :
    Prop where
  names : descriptor.fields.map FieldDescriptor.name = record.fields.map FieldSpec.name
  types : descriptor.fields.map FieldDescriptor.type = record.fields.map FieldSpec.type
  nodup : descriptor.keys.Nodup

theorem RecordDescriptor.Follows.of_describeNested {record : RecordType}
    {descriptor : RecordDescriptor} (h : describeNested record = .ok descriptor) :
    descriptor.Follows record := by
  obtain ⟨rfl, hnodup⟩ := distinctKeys_of_checkKeys h
  exact ⟨by rw [List.map_map]; rfl, by rw [List.map_map]; rfl, hnodup⟩

/-- What does not depend on the key is the declaration's. -/
theorem map_mapIdx_storedAs {β : Type} {part : FieldDescriptor → β} {own : FieldSpec → β}
    (h : ∀ field key, part (FieldSpec.storedAs field key) = own field) (fields : List FieldSpec)
    (key : Nat → FieldSpec → String) :
    (fields.mapIdx fun place field => field.storedAs (key place field)).map part =
      fields.map own := by
  refine List.ext_getElem? fun place => ?_
  rw [List.getElem?_map, List.getElem?_mapIdx, List.getElem?_map, Option.map_map]
  exact congrArg (Option.map · _) (funext fun field => h field _)

theorem RecordDescriptor.Follows.of_describe {c : Converter} {record : RecordType}
    {descriptor : RecordDescriptor} (h : c.describe record = .ok descriptor) :
    descriptor.Follows record := by
  unfold Converter.describe at h
  split at h
  · cases h
  · obtain ⟨place, -, hcheck⟩ := bind_eq_ok_iff.mp h
    obtain ⟨rfl, hnodup⟩ := distinctKeys_of_checkKeys hcheck
    exact ⟨map_mapIdx_storedAs (fun _ _ => rfl) _ _, map_mapIdx_storedAs (fun _ _ => rfl) _ _,
      hnodup⟩

/-- A key tells where its field stands. -/
theorem RecordDescriptor.place_eq {descriptor : RecordDescriptor} (hnodup : descriptor.keys.Nodup)
    {i j : Nat} {field other : FieldDescriptor} (hi : descriptor.fields[i]? = some field)
    (hj : descriptor.fields[j]? = some other) (hkey : field.key = other.key) : i = j := by
  have hat {k : Nat} {f : FieldDescriptor} (hk : descriptor.fields[k]? = some f) :
      descriptor.keys[k]? = some f.key := by
    rw [keys, List.getElem?_map, hk, Option.map_some]
  obtain ⟨hlt, -⟩ := List.getElem?_eq_some_iff.mp (hat hi)
  refine (List.getElem?_inj hlt hnodup).mp ?_
  rw [hat hi, hat hj, hkey]

/-! ## 2. Stored forms -/

namespace Bson

/-- The form in which a value without parts is stored. -/
inductive PlainForm : FieldType → Bson → Prop where
  | bool (value : Bool) : PlainForm .bool (.boolean value)
  | int32 (value : Int32) : PlainForm .int32 (.int32 value)
  | int64 (value : Int64) : PlainForm .int64 (.int64 value)
  | double (value : Double) : PlainForm .double (.double value)
  | string (value : String) : PlainForm .string (.string value)
  | instant (millis : Int64) : PlainForm .instant (.date millis)
  | timestamp (millis : Int64) : PlainForm .timestamp (.date millis)
  | date (millis : Int64) : PlainForm .date (.date millis)

/-- The form in which a value of the type is stored.  The document of a record has exactly the keys
of the record's descriptor, in their order, and so has every document inside it. -/
inductive HasForm (types : Schema) : FieldType → Bson → Prop where
  | plain {type : FieldType} {stored : Bson} (h : PlainForm type stored) :
      HasForm types type stored
  | absent (inner : FieldType) : HasForm types (.optional inner) .null
  | present {inner : FieldType} {stored : Bson} (h : HasForm types inner stored) :
      HasForm types (.optional inner) stored
  | seq {inner : FieldType} {items : List Bson} (h : ∀ item ∈ items, HasForm types inner item) :
      HasForm types (.seq inner) (.array items)
  | set {inner : FieldType} {items : List Bson} (h : ∀ item ∈ items, HasForm types inner item) :
      HasForm types (.set inner) (.array items)
  | record {id : RecordId} {descriptor : RecordDescriptor} {d : Document}
      (hdescriptor : describeNested (types id) = .ok descriptor)
      (hkeys : d.keys = descriptor.keys)
      (hvalues : List.Forall₂ (HasForm types) (descriptor.fields.map FieldDescriptor.type)
        (d.map Prod.snd)) :
      HasForm types (.record id) (.document d)

end Bson

/-- The document has exactly the keys of the descriptor, in their order, and the values under them
have the forms of the fields' types. -/
structure Document.LaidOut (types : Schema) (descriptor : RecordDescriptor) (d : Document) :
    Prop where
  keys : d.keys = descriptor.keys
  values : List.Forall₂ (Bson.HasForm types) (descriptor.fields.map FieldDescriptor.type)
    (d.map Prod.snd)

/-! ## 3. Single values -/

section

variable {types : Schema} {nested : RecordId → Except ConversionError RecordDescriptor}

/-- A rule takes over. -/
theorem encodeValue_of_rule {rules : List TypeRule} {rule : TypeRule} {type : FieldType}
    (h : findRule rules type = some rule) (value : Value) :
    encodeValue types rules nested type value = rule.encode value := by
  rw [encodeValue.eq_def, h]
  exact ofExcept_eq_self _

theorem decodeValue_of_rule {rules : List TypeRule} {rule : TypeRule} {type : FieldType}
    (h : findRule rules type = some rule) (stored : Bson) :
    decodeValue types rules nested type stored = rule.decode stored type := by
  rw [decodeValue.eq_def, h]
  exact ofExcept_eq_self _

theorem encodeValue_optional {inner : FieldType} {value : Value} (h : value.isNull = false) :
    encodeValue types TypeRule.standard nested (.optional inner) value =
      encodeValue types TypeRule.standard nested inner value := by
  rw [encodeValue.eq_def]
  cases value <;> first | rfl | cases h

theorem decodeValue_optional {inner : FieldType} {stored : Bson} (h : stored.isNull = false) :
    decodeValue types TypeRule.standard nested (.optional inner) stored =
      decodeValue types TypeRule.standard nested inner stored := by
  rw [decodeValue.eq_def]
  cases stored <;> first | rfl | cases h

theorem encodeValue_optional_null (inner : FieldType) :
    encodeValue types TypeRule.standard nested (.optional inner) .null = .ok .null := by
  rw [encodeValue.eq_def]
  rfl

theorem decodeValue_optional_null (inner : FieldType) :
    decodeValue types TypeRule.standard nested (.optional inner) .null = .ok .null := by
  rw [decodeValue.eq_def]
  rfl

theorem encodeValue_string (s : String) :
    encodeValue types TypeRule.standard nested .string (.string s) = .ok (.string s) := by
  rw [encodeValue.eq_def]
  rfl

theorem encodeValue_instant (t : Instant) :
    encodeValue types TypeRule.standard nested .instant (.instant t) =
      .ok (.date (Int64.ofInt t.toMillis)) := by
  rw [encodeValue_of_rule rfl]
  rfl

theorem encodeValue_timestamp (t : Timestamp) :
    encodeValue types TypeRule.standard nested .timestamp (.timestamp t) =
      t.toMillis.map Bson.date := by
  rw [encodeValue_of_rule rfl]
  rfl

theorem Value.Plain.decodeValue_encodeValue {type : FieldType} {value : Value} {stored : Bson}
    (h : Value.Plain type value) (hordinary : value.Ordinary)
    (hencode : encodeValue types TypeRule.standard nested type value = .ok stored) :
    Bson.PlainForm type stored ∧
      decodeValue types TypeRule.standard nested type stored = .ok value.floored := by
  cases h with
  | instant t =>
    rw [encodeValue_instant] at hencode
    cases hencode
    refine ⟨.instant _, ?_⟩
    rw [decodeValue_of_rule rfl]
    show Except.ok (Value.instant (Instant.ofMillis (Int64.ofInt t.toMillis).toInt)) = _
    rw [t.toInt_ofInt_toMillis, Instant.ofMillis_toMillis_floored hordinary]
    rfl
  | timestamp t =>
    rw [encodeValue_timestamp] at hencode
    cases hmillis : t.toMillis with
    | error e =>
      rw [hmillis] at hencode
      cases hencode
    | ok millis =>
      rw [hmillis] at hencode
      cases hencode
      refine ⟨.timestamp millis, ?_⟩
      rw [decodeValue_of_rule rfl]
      show (Timestamp.ofMillis millis).map Value.timestamp = _
      rw [Timestamp.ofMillis_toMillis_floored hmillis]
      rfl
  | _ =>
    rw [encodeValue.eq_def] at hencode
    cases hencode
    exact ⟨by constructor, by rw [decodeValue.eq_def]; rfl⟩

theorem Bson.PlainForm.isNull {type : FieldType} {stored : Bson}
    (h : Bson.PlainForm type stored) : stored.isNull = false := by
  cases h <;> rfl

theorem encodeValue_seq_eq_ok_iff {inner : FieldType} {items : List Value} {stored : Bson} :
    encodeValue types TypeRule.standard nested (.seq inner) (.seq items) = .ok stored ↔
      ∃ bs, encodeItems types TypeRule.standard nested inner items = .ok bs ∧
        stored = .array bs := by
  rw [encodeValue.eq_def]
  show (encodeItems types TypeRule.standard nested inner items >>= fun bs => pure (.array bs)) =
    .ok stored ↔ _
  simp only [bind_eq_ok_iff, pure_eq_ok_iff]

theorem encodeValue_set (inner : FieldType) (items : List Value) :
    encodeValue types TypeRule.standard nested (.set inner) (.seq items) =
      encodeValue types TypeRule.standard nested (.seq inner) (.seq items) := by
  rw [encodeValue.eq_def, encodeValue.eq_def]
  rfl

theorem encodeValue_record_eq_ok_iff {id : RecordId} {values : List Value} {stored : Bson} :
    encodeValue types TypeRule.standard nested (.record id) (.record values) = .ok stored ↔
      ∃ descriptor d, nested id = .ok descriptor ∧
        encodeFields types TypeRule.standard nested descriptor values = .ok d ∧
        stored = .document d := by
  rw [encodeValue.eq_def]
  show (nested id >>= fun descriptor =>
    encodeFields types TypeRule.standard nested descriptor values >>= fun d =>
      pure (.document d)) = .ok stored ↔ _
  simp only [bind_eq_ok_iff, pure_eq_ok_iff, exists_and_left]

theorem decodeValue_seq_eq_ok_iff {inner : FieldType} {bs : List Bson} {value : Value} :
    decodeValue types TypeRule.standard nested (.seq inner) (.array bs) = .ok value ↔
      ∃ items, decodeItems types TypeRule.standard nested inner bs = .ok items ∧
        value = .seq items := by
  rw [decodeValue.eq_def]
  show (decodeItems types TypeRule.standard nested inner bs >>= fun items => pure (.seq items)) =
    .ok value ↔ _
  simp only [bind_eq_ok_iff, pure_eq_ok_iff]

theorem decodeValue_set (inner : FieldType) (bs : List Bson) :
    decodeValue types TypeRule.standard nested (.set inner) (.array bs) =
      decodeValue types TypeRule.standard nested (.seq inner) (.array bs) := by
  rw [decodeValue.eq_def, decodeValue.eq_def]
  rfl

theorem decodeValue_record_eq_ok_iff {id : RecordId} {d : Document} {value : Value} :
    decodeValue types TypeRule.standard nested (.record id) (.document d) = .ok value ↔
      ∃ descriptor values, nested id = .ok descriptor ∧
        decodeFields types TypeRule.standard nested descriptor.fields d = .ok values ∧
        value = .record values := by
  rw [decodeValue.eq_def]
  show (nested id >>= fun descriptor =>
    decodeFields types TypeRule.standard nested descriptor.fields d >>= fun values =>
      pure (.record values)) = .ok value ↔ _
  simp only [bind_eq_ok_iff, pure_eq_ok_iff, exists_and_left]

/-- **Only null is stored as null.** -/
theorem Value.HasType.isNull_encodeValue {type : FieldType} {value : Value} {stored : Bson}
    (h : Value.HasType types type value) (hordinary : value.Ordinary)
    (hencode : encodeValue types TypeRule.standard nested type value = .ok stored) :
    stored.isNull = value.isNull := by
  induction h using Value.HasType.induction with
  | plain h =>
    rw [(h.decodeValue_encodeValue hordinary hencode).1.isNull]
    cases h <;> rfl
  | absent inner =>
    rw [encodeValue_optional_null] at hencode
    cases hencode
    rfl
  | @present inner value h ih =>
    cases hnull : value.isNull with
    | true =>
      rw [Value.isNull_iff.mp hnull, encodeValue_optional_null] at hencode
      cases hencode
      rfl
    | false =>
      rw [encodeValue_optional hnull] at hencode
      rw [ih hordinary hencode, hnull]
  | seq h ih =>
    obtain ⟨bs, -, rfl⟩ := encodeValue_seq_eq_ok_iff.mp hencode
    rfl
  | set h ih =>
    rw [encodeValue_set] at hencode
    obtain ⟨bs, -, rfl⟩ := encodeValue_seq_eq_ok_iff.mp hencode
    rfl
  | record h ih =>
    obtain ⟨descriptor, d, -, -, rfl⟩ := encodeValue_record_eq_ok_iff.mp hencode
    rfl

end

/-! ## 4. Values with parts -/

/-- The descriptors of nested records. -/
abbrev nestedDescriptor (types : Schema) (id : RecordId) :
    Except ConversionError RecordDescriptor :=
  describeNested (types id)

section

variable {types : Schema}

/-- If the value is stored, it is stored in the form of the type, and its floor comes back. -/
def Value.ComesBack (types : Schema) (type : FieldType) (value : Value) : Prop :=
  value.Ordinary → ∀ {stored : Bson},
    encodeValue types TypeRule.standard (nestedDescriptor types) type value = .ok stored →
      Bson.HasForm types type stored ∧
        decodeValue types TypeRule.standard (nestedDescriptor types) type stored = .ok value.floored

theorem comesBack_items {type : FieldType} {items : List Value} {stored : List Bson}
    (hitems : ∀ item ∈ items, item.ComesBack types type) (hordinary : Value.AllOrdinary items)
    (hencode : encodeItems types TypeRule.standard (nestedDescriptor types) type items =
      .ok stored) :
    (∀ b ∈ stored, Bson.HasForm types type b) ∧
      decodeItems types TypeRule.standard (nestedDescriptor types) type stored =
        .ok (items.map Value.floored) := by
  rw [encodeItems_eq_ok_iff] at hencode
  rw [decodeItems_eq_ok_iff]
  induction hencode with
  | nil => exact ⟨fun _ hmem => absurd hmem List.not_mem_nil, .nil⟩
  | cons hfirst _ ih =>
    obtain ⟨hitem, hrest⟩ := List.forall_mem_cons.mp hitems
    obtain ⟨hform, hdecode⟩ := hitem hordinary.1 hfirst
    obtain ⟨hforms, hdecodes⟩ := ih hrest hordinary.2
    exact ⟨List.forall_mem_cons.mpr ⟨hform, hforms⟩, .cons hdecode hdecodes⟩

/-- What the fields of a document decode to is settled by the entries under their keys, wherever in
a document they stand: the induction is on the fields, and the document stays whole. -/
theorem comesBack_each {fields : List FieldDescriptor} {values : List Value} {d : Document}
    (hvalues : List.Forall₂ (Value.ComesBack types) (fields.map FieldDescriptor.type) values)
    (hordinary : Value.AllOrdinary values)
    (hencode : encodeEach types TypeRule.standard (nestedDescriptor types) fields values = .ok d) :
    List.Forall₂ (Bson.HasForm types) (fields.map FieldDescriptor.type) (d.map Prod.snd) ∧
      ∀ whole : Document, (∀ entry ∈ d, whole.get? entry.1 = some entry.2) →
        decodeFields types TypeRule.standard (nestedDescriptor types) fields whole =
          .ok (values.map Value.floored) := by
  rw [encodeEach_eq_ok_iff] at hencode
  simp only [decodeFields_eq_ok_iff]
  induction fields generalizing values d with
  | nil =>
    cases hvalues
    cases hencode
    exact ⟨.nil, fun _ _ => .nil⟩
  | cons field fields ih =>
    cases hvalues with
    | cons hvalue hrest =>
      cases hencode with
      | @cons _ entry _ others hfirst hothers =>
        obtain ⟨key, stored⟩ := entry
        obtain ⟨rfl, hstored⟩ := hfirst
        obtain ⟨hform, hdecode⟩ := hvalue hordinary.1 hstored
        obtain ⟨hforms, hdecodes⟩ := ih hrest hordinary.2 hothers
        refine ⟨.cons hform hforms, fun whole hwhole => ?_⟩
        obtain ⟨hget, hgets⟩ := List.forall_mem_cons.mp hwhole
        refine .cons ?_ (hdecodes whole hgets)
        show decodeValue _ _ _ field.type ((whole.get? field.key).getD .null) = _
        rw [hget]
        exact hdecode

theorem comesBack_fields {record : RecordType} {descriptor : RecordDescriptor}
    {values : List Value} {d : Document} (hfollows : descriptor.Follows record)
    (hvalues : List.Forall₂ (Value.ComesBack types) (record.fields.map FieldSpec.type) values)
    (hordinary : Value.AllOrdinary values)
    (hencode : encodeFields types TypeRule.standard (nestedDescriptor types) descriptor values =
      .ok d) :
    d.LaidOut types descriptor ∧
      decodeFields types TypeRule.standard (nestedDescriptor types) descriptor.fields d =
        .ok (values.map Value.floored) := by
  obtain ⟨hlength, heach⟩ := encodeFields_eq_ok_iff.mp hencode
  rw [← hfollows.types] at hvalues
  obtain ⟨hforms, hdecode⟩ := comesBack_each hvalues hordinary heach
  have hkeys : d.keys = descriptor.keys := keys_of_encodeEach hlength heach
  have hnodup : d.keys.Nodup := hkeys ▸ hfollows.nodup
  exact ⟨⟨hkeys, hforms⟩, hdecode d fun entry hentry => Document.get?_of_mem hnodup hentry⟩

/-- **Every value comes back.**  By induction on the typing, since a record type can refer to
itself and nothing but the value ends the recursion. -/
theorem Value.HasType.comesBack {type : FieldType} {value : Value}
    (h : Value.HasType types type value) : value.ComesBack types type := by
  induction h using Value.HasType.induction with
  | plain h =>
    intro hordinary stored hencode
    obtain ⟨hform, hdecode⟩ := h.decodeValue_encodeValue hordinary hencode
    exact ⟨.plain hform, hdecode⟩
  | absent inner =>
    intro _ stored hencode
    rw [encodeValue_optional_null] at hencode
    cases hencode
    exact ⟨.absent inner, decodeValue_optional_null inner⟩
  | @present inner value h ih =>
    intro hordinary stored hencode
    cases hnull : value.isNull with
    | true =>
      rw [Value.isNull_iff.mp hnull] at hencode ⊢
      rw [encodeValue_optional_null] at hencode
      cases hencode
      exact ⟨.absent inner, decodeValue_optional_null inner⟩
    | false =>
      rw [encodeValue_optional hnull] at hencode
      obtain ⟨hform, hdecode⟩ := ih hordinary hencode
      have hstored : stored.isNull = false :=
        (h.isNull_encodeValue hordinary hencode).trans hnull
      exact ⟨.present hform, (decodeValue_optional hstored).trans hdecode⟩
  | seq h ih =>
    intro hordinary stored hencode
    obtain ⟨bs, hbs, rfl⟩ := encodeValue_seq_eq_ok_iff.mp hencode
    obtain ⟨hforms, hdecode⟩ := comesBack_items ih hordinary hbs
    exact ⟨.seq hforms, decodeValue_seq_eq_ok_iff.mpr ⟨_, hdecode, floored_seq _⟩⟩
  | set h ih =>
    intro hordinary stored hencode
    rw [encodeValue_set] at hencode
    obtain ⟨bs, hbs, rfl⟩ := encodeValue_seq_eq_ok_iff.mp hencode
    obtain ⟨hforms, hdecode⟩ := comesBack_items ih hordinary hbs
    rw [decodeValue_set]
    exact ⟨.set hforms, decodeValue_seq_eq_ok_iff.mpr ⟨_, hdecode, floored_seq _⟩⟩
  | record h ih =>
    intro hordinary stored hencode
    obtain ⟨descriptor, d, hdescriptor, hd, rfl⟩ := encodeValue_record_eq_ok_iff.mp hencode
    obtain ⟨hlaid, hdecode⟩ := comesBack_fields (.of_describeNested hdescriptor)
      (ih.imp fun _ _ hvalue => hvalue.2) hordinary hd
    exact ⟨.record hdescriptor hlaid.keys hlaid.values,
      decodeValue_record_eq_ok_iff.mpr ⟨descriptor, _, hdescriptor, hdecode, floored_record _⟩⟩

end

/-! ## 5. Records -/

namespace Converter

theorem encode_of_entries {c : Converter} {types : Schema} {id : RecordId} {values : List Value}
    {d : Document} {descriptor : RecordDescriptor}
    (hdescribe : c.describe (types id) = .ok descriptor)
    (hlength : values.length = descriptor.fields.length)
    (h : List.Forall₂ (fun (pair : FieldDescriptor × Value) entry => entry.1 = pair.1.key ∧
        encodeValue types c.rules (nestedDescriptor types) pair.1.type pair.2 = .ok entry.2)
      (descriptor.fields.zip values) d) :
    c.encode types id values = .ok d :=
  bind_eq_ok_iff.mpr ⟨descriptor, hdescribe, encodeFields_of_entries hlength h⟩

/-- **What comes back from a document.**  A converter with the standard rules, whatever its mappings
and its identity, lays a record out under the keys of its descriptor, and reads it again with every
point in time floored to milliseconds. -/
theorem decodeValues_encode {c : Converter} (hrules : c.rules = TypeRule.standard)
    {types : Schema} {id : RecordId} {values : List Value}
    (htyped : (types id).Takes types values) (hordinary : Value.AllOrdinary values)
    {d : Document} (hencode : c.encode types id values = .ok d) :
    ∃ descriptor, c.describe (types id) = .ok descriptor ∧ descriptor.Follows (types id) ∧
      d.LaidOut types descriptor ∧
      c.decodeValues types id d = .ok (values.map Value.floored) := by
  obtain ⟨descriptor, hdescriptor, hfields⟩ := bind_eq_ok_iff.mp hencode
  rw [hrules] at hfields
  have hfollows := RecordDescriptor.Follows.of_describe hdescriptor
  obtain ⟨hlaid, hdecode⟩ := comesBack_fields hfollows
    (htyped.imp fun _ _ hvalue => hvalue.comesBack) hordinary hfields
  rw [← hrules] at hdecode
  exact ⟨descriptor, hdescriptor, hfollows, hlaid,
    bind_eq_ok_iff.mpr ⟨descriptor, hdescriptor, hdecode⟩⟩

/-- A record inside one of its own type, under a mapped key, with an instant before 1970 and a
timestamp that are finer than a millisecond. -/
theorem decodeValues_encode_nested :
    let types : Schema := fun _ =>
      ⟨"Node", [⟨"node_name", .string, none, false⟩, ⟨"child_nodes", .seq (.record 0), none, false⟩,
        ⟨"seen", .optional .instant, none, false⟩, ⟨"at", .timestamp, some "t", false⟩], true⟩
    let c : Converter := { mappings := [("nodeName", "label")], identityField := some "at" }
    let inner := Value.record [.string "b", .seq [], .null, .timestamp ⟨7, 1999999⟩]
    let values : List Value := [.string "a", .seq [inner],
      .instant ⟨-1, 999999999, by decide, by decide, by decide, by decide⟩, .timestamp ⟨-1, 5⟩]
    let d : Document := [("label", .string "a"),
      ("childNodes", .array [.document [("nodeName", .string "b"), ("childNodes", .array []),
        ("seen", .null), ("t", .date 7001)]]),
      ("seen", .date (-1)), ("_id", .date (-1000))]
    (types 0).Takes types values ∧ Value.AllOrdinary values ∧ c.encode types 0 values = .ok d ∧
      ∃ descriptor, c.describe (types 0) = .ok descriptor ∧ d.LaidOut types descriptor ∧
        c.decodeValues types 0 d = .ok (values.map Value.floored) := by
  intro types c inner values d
  have htimes (seconds : Int64) (nanos : Int32) :
      Value.HasType types .timestamp (.timestamp ⟨seconds, nanos⟩) := .plain (.timestamp _)
  have hinner : Value.HasType types (.record 0) inner :=
    .record (.cons (.plain (.string _)) (.cons (.seq fun _ h => absurd h List.not_mem_nil)
      (.cons (.absent _) (.cons (htimes 7 1999999) .nil))))
  have htyped : (types 0).Takes types values :=
    .cons (.plain (.string _)) (.cons (.seq (List.forall_mem_singleton.mpr hinner))
      (.cons (.present (.plain (.instant _))) (.cons (htimes (-1) 5) .nil)))
  have hordinary : Value.AllOrdinary values :=
    ⟨trivial, ⟨⟨trivial, trivial, trivial, trivial, trivial⟩, trivial⟩,
      show 999999999 < 1000000000 by decide, trivial, trivial⟩
  have hdescribe : c.describe (types 0) = .ok ⟨"Node", [⟨"node_name", .string, "label"⟩,
      ⟨"child_nodes", .seq (.record 0), "childNodes"⟩, ⟨"seen", .optional .instant, "seen"⟩,
      ⟨"at", .timestamp, "_id"⟩], some 3⟩ := rfl
  have hseq {items : List Value} {bs : List Bson}
      (h : encodeItems types TypeRule.standard (nestedDescriptor types) (.record 0) items =
        .ok bs) :
      encodeValue types TypeRule.standard (nestedDescriptor types) (.seq (.record 0)) (.seq items) =
        .ok (.array bs) :=
    encodeValue_seq_eq_ok_iff.mpr ⟨bs, h, rfl⟩
  have htime {t : Timestamp} {millis : Int64} (h : t.toMillis = .ok millis) :
      encodeValue types TypeRule.standard (nestedDescriptor types) .timestamp (.timestamp t) =
        .ok (.date millis) := by
    rw [encodeValue_timestamp, h]
    rfl
  have hseen : encodeValue types TypeRule.standard (nestedDescriptor types) (.optional .instant)
      (.instant ⟨-1, 999999999, by decide, by decide, by decide, by decide⟩) =
        .ok (.date (-1)) := by
    rw [encodeValue_optional rfl, encodeValue_instant]
    rfl
  have hdescriptor : nestedDescriptor types 0 = .ok ⟨"Node", [⟨"node_name", .string, "nodeName"⟩,
      ⟨"child_nodes", .seq (.record 0), "childNodes"⟩, ⟨"seen", .optional .instant, "seen"⟩,
      ⟨"at", .timestamp, "t"⟩], none⟩ := rfl
  have hnested : encodeValue types TypeRule.standard (nestedDescriptor types) (.record 0) inner =
      .ok (.document [("nodeName", .string "b"), ("childNodes", .array []), ("seen", .null),
        ("t", .date 7001)]) :=
    encodeValue_record_eq_ok_iff.mpr ⟨_, _, hdescriptor, encodeFields_of_entries rfl
      (.cons ⟨rfl, encodeValue_string "b"⟩ (.cons ⟨rfl, hseq (encodeItems_eq_ok_iff.mpr .nil)⟩
        (.cons ⟨rfl, encodeValue_optional_null .instant⟩ (.cons ⟨rfl, htime rfl⟩ .nil)))), rfl⟩
  have hencode : c.encode types 0 values = .ok d :=
    encode_of_entries hdescribe rfl (.cons ⟨rfl, encodeValue_string "a"⟩
      (.cons ⟨rfl, hseq (encodeItems_eq_ok_iff.mpr (.cons hnested .nil))⟩
        (.cons ⟨rfl, hseen⟩ (.cons ⟨rfl, htime rfl⟩ .nil))))
  obtain ⟨descriptor, hdescriptor, -, hlaid, hdecode⟩ :=
    decodeValues_encode rfl htyped hordinary hencode
  exact ⟨htyped, hordinary, hencode, descriptor, hdescriptor, hlaid, hdecode⟩

end Converter

end Dossier
