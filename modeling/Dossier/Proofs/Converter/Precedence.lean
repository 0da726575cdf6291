/-
# A shadowed rule is never reached

Of several rules for a type the first counts.  But rules are looked for anew at every level of a
conversion, first for the type of a field, then for what is in it: the inner type of an optional
value, that of the items, those of the fields of a nested record.  So what a rule can change at all
depends on all types that a record contains, at any depth (`FieldType.Contains`).

If the rules of two converters find the same for each of these types, the converters convert alike
(`encodeValue_eq_of_findRule`, `decodeValue_eq_of_findRule`, along the recursion of conversions).  A
rule that is added at the end changes nothing for a type exactly if an earlier one takes the type or
it does not take it itself (`findRule_append_eq_iff`).

Main statement: `Converter.withRule_shadowed`.
-/
import Dossier.Proofs.Converter.Soundness
import Mathlib.Tactic.FinCases

namespace Dossier

/-! ## 1. Which rule is found -/

/-- One of the rules takes the type, or the further rule does not take it. -/
def TypeRule.ShadowedAt (rule : TypeRule) (rules : List TypeRule) (type : FieldType) : Prop :=
  (∃ earlier ∈ rules, earlier.check type = true) ∨ rule.check type = false

/-- A further rule leaves the choice for a type as it was exactly if it is shadowed there. -/
theorem findRule_append_eq_iff {rules : List TypeRule} {rule : TypeRule} {type : FieldType} :
    findRule (rules ++ [rule]) type = findRule rules type ↔ rule.ShadowedAt rules type := by
  have hfound :
      (findRule rules type).isSome = true ↔ ∃ earlier ∈ rules, earlier.check type = true :=
    List.find?_isSome
  rw [findRule_append, TypeRule.ShadowedAt, ← hfound]
  cases findRule rules type with
  | some earlier => exact iff_of_true rfl (.inl rfl)
  | none =>
    have hlast : findRule [rule] type = none ↔ rule.check type = false := by
      rw [findRule, List.find?_eq_none, List.forall_mem_singleton, Bool.not_eq_true]
    rw [Option.none_or, hlast]
    exact (or_iff_right Bool.false_ne_true).symm

/-! ## 2. Types inside a record -/

/-- Each field of a descriptor has the name and the type of a declared one. -/
theorem RecordDescriptor.Follows.exists_spec {descriptor : RecordDescriptor} {record : RecordType}
    (h : descriptor.Follows record) {field : FieldDescriptor} (hfield : field ∈ descriptor.fields) :
    ∃ spec ∈ record.fields, spec.name = field.name ∧ spec.type = field.type := by
  obtain ⟨place, hplace⟩ := List.getElem?_of_mem hfield
  have hname := congrArg (·[place]?) h.names
  have htype := congrArg (·[place]?) h.types
  simp only [List.getElem?_map, hplace, Option.map_some] at hname htype
  cases hspec : record.fields[place]? with
  | none => rw [hspec] at hname; cases hname
  | some spec =>
    rw [hspec] at hname htype
    exact ⟨spec, List.mem_of_getElem? hspec, (Option.some.inj hname).symm,
      (Option.some.inj htype).symm⟩

section

variable {types : Schema} {rules others : List TypeRule}

/-- What a field of a nested record contains, the record does. -/
theorem FieldType.Contains.field {id : RecordId} {descriptor : RecordDescriptor}
    (hdescriptor : describeNested (types id) = .ok descriptor) {field : FieldDescriptor}
    (hfield : field ∈ descriptor.fields) {inner : FieldType}
    (h : field.type.Contains types inner) : (FieldType.record id).Contains types inner := by
  obtain ⟨spec, hspec, -, htype⟩ :=
    (RecordDescriptor.Follows.of_describeNested hdescriptor).exists_spec hfield
  exact .record hspec (htype ▸ h)

/-- The two lists of rules find the same for all types inside the type. -/
def SameRules (types : Schema) (rules others : List TypeRule) (type : FieldType) : Prop :=
  ∀ inner, type.Contains types inner → findRule rules inner = findRule others inner

theorem SameRules.fields {id : RecordId} (h : SameRules types rules others (.record id))
    {descriptor : RecordDescriptor} (hdescriptor : nestedDescriptor types id = .ok descriptor) :
    ∀ field ∈ descriptor.fields, SameRules types rules others field.type :=
  fun _ hfield inner hinner => h inner (.field hdescriptor hfield hinner)

/-! ## 3. Conversions by the rules that are found -/

/-- What a document has under a key is smaller than the document. -/
theorem Document.sizeOf_getOrNull_lt (d : Document) (key : String) :
    sizeOf (d.getOrNull key) < sizeOf (Bson.document d) := by
  have hle := d.sizeOf_getOrNull_le key
  rw [Bson.document.sizeOf_spec]
  omega

/-- The induction is on the value, and inside it on the type, which loses a layer where a value is
optional. -/
theorem encodeValue_eq_of_findRule (type : FieldType) (value : Value)
    (h : SameRules types rules others type) :
    encodeValue types rules (nestedDescriptor types) type value =
      encodeValue types others (nestedDescriptor types) type value := by
  rw [encodeValue.eq_def types rules, encodeValue.eq_def types others, h type (.self type)]
  cases findRule others type with
  | some rule => rfl
  | none =>
    dsimp only
    split
    any_goals rfl
    -- The other cases go on to what is inside the type.
    · exact encodeValue_eq_of_findRule _ _ fun inner hinner => h inner (.optional hinner)
    · rw [encodeItems_congr fun item hitem =>
        encodeValue_eq_of_findRule _ item fun inner hinner => h inner (.seq hinner)]
    · rw [encodeItems_congr fun item hitem =>
        encodeValue_eq_of_findRule _ item fun inner hinner => h inner (.set hinner)]
    · refine bind_congr_of_ok fun descriptor hdescriptor => ?_
      rw [encodeFields_congr fun field value hmem =>
        have hvalue := (List.of_mem_zip hmem).2
        encodeValue_eq_of_findRule _ value (h.fields hdescriptor field (List.of_mem_zip hmem).1)]
termination_by (sizeOf value, sizeOf type)

theorem decodeValue_eq_of_findRule (type : FieldType) (stored : Bson)
    (h : SameRules types rules others type) :
    decodeValue types rules (nestedDescriptor types) type stored =
      decodeValue types others (nestedDescriptor types) type stored := by
  rw [decodeValue.eq_def types rules, decodeValue.eq_def types others, h type (.self type)]
  cases findRule others type with
  | some rule => rfl
  | none =>
    dsimp only
    split
    any_goals rfl
    · exact decodeValue_eq_of_findRule _ _ fun inner hinner => h inner (.optional hinner)
    · rw [decodeItems_congr (List.forall₂_same.mpr fun item hitem =>
        decodeValue_eq_of_findRule _ item fun inner hinner => h inner (.seq hinner))]
    · rw [decodeItems_congr (List.forall₂_same.mpr fun item hitem =>
        decodeValue_eq_of_findRule _ item fun inner hinner => h inner (.set hinner))]
    · rename_i id d
      refine bind_congr_of_ok fun descriptor hdescriptor => ?_
      rw [decodeFields_congr fun field hfield =>
        have hsize := Document.sizeOf_getOrNull_lt d field.key
        decodeValue_eq_of_findRule _ _ (h.fields hdescriptor field hfield)]
termination_by (sizeOf stored, sizeOf type)

end

/-! ## 4. Converters -/

namespace Converter

variable {c : Converter} {rule : TypeRule} {types : Schema} {id : RecordId}

/-- **A shadowed rule is never reached.**  A further rule that is shadowed at each type that the
record contains, at any depth, changes nothing in how values of the record are encoded and documents
decoded, be it to a result or to an error. -/
theorem withRule_shadowed
    (h : ∀ field ∈ (types id).fields, ∀ type, field.type.Contains types type →
      rule.ShadowedAt c.rules type) :
    (∀ values, (c.withRule rule).encode types id values = c.encode types id values) ∧
      (∀ d, (c.withRule rule).decodeValues types id d = c.decodeValues types id d) ∧
      ∀ d, (c.withRule rule).decode types id d = c.decode types id d := by
  have hdescribe : (c.withRule rule).describe (types id) = c.describe (types id) := rfl
  have hsame {descriptor : RecordDescriptor}
      (hdescriptor : c.describe (types id) = .ok descriptor) :
      ∀ field ∈ descriptor.fields, SameRules types (c.rules ++ [rule]) c.rules field.type := by
    intro field hfield type htype
    obtain ⟨spec, hspec, -, heq⟩ :=
      (RecordDescriptor.Follows.of_describe hdescriptor).exists_spec hfield
    exact findRule_append_eq_iff.mpr (h spec hspec type (heq ▸ htype))
  have hdecode (d : Document) :
      (c.withRule rule).decodeValues types id d = c.decodeValues types id d := by
    unfold decodeValues
    rw [hdescribe]
    exact bind_congr_of_ok fun descriptor hdescriptor =>
      decodeFields_congr fun field hfield =>
        decodeValue_eq_of_findRule _ _ (hsame hdescriptor field hfield)
  refine ⟨fun values => ?_, hdecode, fun d => ?_⟩
  · unfold encode
    rw [hdescribe]
    exact bind_congr_of_ok fun descriptor hdescriptor =>
      encodeFields_congr fun field value hmem =>
        encodeValue_eq_of_findRule _ _ (hsame hdescriptor field (List.of_mem_zip hmem).1)
  · rw [decode, decode, hdecode]

namespace Example

/-- A part with a label, made of parts. -/
def parts : Schema := fun _ =>
  ⟨"Part", [⟨"number", .int32, none, true⟩, ⟨"label", .optional .string, none, false⟩,
    ⟨"made_of", .seq (.record 0), none, false⟩], true⟩

/-- Labels are written with a mark, and read with another. -/
def marking : Converter := { rules := TypeRule.standard ++ [TypeRule.labelled "a" .string] }

/-- A rule for strings, which another takes already, and for Booleans, of which a part has none. -/
def lateRule : TypeRule where
  check type := type = .string ∨ type = .bool
  encode _ := .error (.unsupportedType "late")
  decode _ _ := .error (.unsupportedType "late")

/-- The types inside a part. -/
def partTypes : List FieldType :=
  [.int32, .optional .string, .string, .seq (.record 0), .record 0]

theorem mem_partTypes {type other : FieldType} (h : type.Contains parts other)
    (htype : type ∈ partTypes) : other ∈ partTypes := by
  induction h with
  | self => exact htype
  | optional _ ih => exact ih (by simp_all [partTypes])
  | seq _ ih => exact ih (by simp_all [partTypes])
  | set _ ih => exact ih (by simp_all [partTypes])
  | record hmem _ ih =>
    refine ih ?_
    fin_cases hmem <;> decide

theorem encodeValue_label (label : String) :
    encodeValue parts marking.rules (nestedDescriptor parts) (.optional .string) (.string label) =
      .ok (.string ("a:" ++ label)) := by
  have hlabel : encodeValue parts marking.rules (nestedDescriptor parts) .string (.string label) =
      .ok (.string ("a:" ++ label)) := (encodeValue_of_rule rfl _).trans rfl
  rw [encodeValue.eq_def]
  exact hlabel

theorem encodeValue_number (number : Int32) :
    encodeValue parts marking.rules (nestedDescriptor parts) .int32 (.int32 number) =
      .ok (.int32 number) := by
  rw [encodeValue.eq_def]
  rfl

theorem encodeValue_parts {items : List Value} {stored : List Bson}
    (h : encodeItems parts marking.rules (nestedDescriptor parts) (.record 0) items = .ok stored) :
    encodeValue parts marking.rules (nestedDescriptor parts) (.seq (.record 0)) (.seq items) =
      .ok (.array stored) := by
  rw [encodeValue.eq_def]
  exact bind_eq_ok_iff.mpr ⟨stored, h, rfl⟩

theorem encodeValue_part :
    encodeValue parts marking.rules (nestedDescriptor parts) (.record 0)
      (.record [.int32 2, .null, .seq []]) =
      .ok (.document [("number", .int32 2), ("label", .null), ("madeOf", .array [])]) := by
  have hlabel : encodeValue parts marking.rules (nestedDescriptor parts) (.optional .string) .null =
      .ok .null := by
    rw [encodeValue.eq_def]
    rfl
  rw [encodeValue.eq_def]
  refine bind_eq_ok_iff.mpr ⟨_, rfl, bind_eq_ok_iff.mpr ⟨_, encodeFields_of_entries rfl ?_, rfl⟩⟩
  exact .cons ⟨rfl, encodeValue_number 2⟩ (.cons ⟨rfl, hlabel⟩
    (.cons ⟨rfl, encodeValue_parts (encodeItems_eq_ok_iff.mpr .nil)⟩ .nil))

theorem withRule_shadowed_parts :
    let values : List Value := [.int32 1, .string "x",
      .seq [.record [.int32 2, .null, .seq []]]]
    (∀ field ∈ (parts 0).fields, ∀ type, field.type.Contains parts type →
      lateRule.ShadowedAt marking.rules type) ∧
      (marking.withRule lateRule).encode parts 0 values =
        .ok [("_id", .int32 1), ("label", .string "a:x"), ("madeOf", .array [.document
          [("number", .int32 2), ("label", .null), ("madeOf", .array [])]])] := by
  intro values
  have hshadowed : ∀ field ∈ (parts 0).fields, ∀ type, field.type.Contains parts type →
      lateRule.ShadowedAt marking.rules type := by
    intro field hfield type htype
    have hmem : type ∈ partTypes := mem_partTypes htype (by fin_cases hfield <;> decide)
    by_cases hstring : type = .string
    · exact .inl ⟨TypeRule.labelled "a" .string, by simp [marking], decide_eq_true hstring⟩
    · refine .inr (decide_eq_false (not_or.mpr ⟨hstring, ?_⟩))
      rintro rfl
      revert hmem
      decide
  refine ⟨hshadowed, ((withRule_shadowed hshadowed).1 values).trans ?_⟩
  exact encode_of_entries rfl rfl (.cons ⟨rfl, encodeValue_number 1⟩
    (.cons ⟨rfl, encodeValue_label "x"⟩
      (.cons ⟨rfl, encodeValue_parts (encodeItems_eq_ok_iff.mpr (.cons encodeValue_part .nil))⟩
        .nil)))

end Example

end Converter

end Dossier
