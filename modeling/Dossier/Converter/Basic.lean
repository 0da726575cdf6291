/-
# Converters and the keys they give

A converter turns records into documents and back.  It carries the rules for single types, and
settles under which key each field is stored:

* a mapping for the field, given by its name or its name in camel case, comes first;
* the identity of a top-level record is stored under the converter's identity key;
* otherwise the field's own key counts, declared or in camel case.

The identity is the field that is mapped to the identity key, or else the converter's identity
field, or else the one declared as the record's identity, or else the first.  Nested records have
no identity and no mappings.  `describe` and `describeNested` refuse a record that would store two
fields under one key; `distinctKeys_of_checkKeys` says that whatever they build has none.
-/
import Dossier.Record.Descriptor
import Dossier.Record.Naming
import Dossier.Rule

namespace Dossier

structure Converter where
  /-- The rules, of which the first that checks for a type counts. -/
  rules : List TypeRule := TypeRule.standard
  /-- Keys of fields, the first for a field counting. -/
  mappings : List (String × String) := []
  /-- The identity of top-level records, by name. -/
  identityField : Option String := none
  identityKey : String := "_id"

namespace FieldSpec

/-- Whether a name means the field: its own, or its own in camel case. -/
def answersTo (field : FieldSpec) (name : String) : Bool :=
  name == field.name || name == camelCase field.name

/-- The key of a field that nothing else settles. -/
def declaredKey (field : FieldSpec) : String := field.rename.getD (camelCase field.name)

/-- The field with a key. -/
def storedAs (field : FieldSpec) (key : String) : FieldDescriptor := ⟨field.name, field.type, key⟩

end FieldSpec

/-! ## 1. Distinct keys -/

/-- The first field whose key stands before it. -/
def firstRepeated (seen : List String) : List FieldDescriptor → Option FieldDescriptor
  | [] => none
  | field :: rest =>
    if field.key ∈ seen then some field else firstRepeated (field.key :: seen) rest

theorem nodup_of_firstRepeated {seen : List String} {fields : List FieldDescriptor}
    (h : firstRepeated seen fields = none) :
    (fields.map FieldDescriptor.key).Nodup ∧ ∀ field ∈ fields, field.key ∉ seen := by
  induction fields generalizing seen with
  | nil => simp
  | cons field rest ih =>
    unfold firstRepeated at h
    split at h
    · cases h
    · rename_i fresh
      obtain ⟨nodup, apart⟩ := ih h
      refine ⟨?_, ?_⟩
      · rw [List.map_cons, List.nodup_cons]
        refine ⟨?_, nodup⟩
        intro mem
        obtain ⟨other, hother, heq⟩ := List.mem_map.1 mem
        exact apart other hother (by simp [heq])
      · intro other hother
        rcases List.mem_cons.1 hother with rfl | hother
        · exact fresh
        · intro hseen
          exact apart other hother (List.mem_cons_of_mem _ hseen)

/-- Refuses two fields with one key. -/
def checkKeys (record : RecordType) (fields : List FieldDescriptor) (identity : Option Nat) :
    Except ConversionError RecordDescriptor :=
  match firstRepeated [] fields with
  | some field => .error (.fieldMismatch field.name (.duplicateKey field.key record.name))
  | none => .ok ⟨record.name, fields, identity⟩

theorem distinctKeys_of_checkKeys {record : RecordType} {fields : List FieldDescriptor}
    {identity : Option Nat} {d : RecordDescriptor} (h : checkKeys record fields identity = .ok d) :
    d = ⟨record.name, fields, identity⟩ ∧ d.keys.Nodup := by
  unfold checkKeys at h
  split at h
  · cases h
  · rename_i fresh
    cases h
    exact ⟨rfl, (nodup_of_firstRepeated fresh).1⟩

/-! ## 2. Nested records -/

/-- The descriptor of a record inside another. -/
def describeNested (record : RecordType) : Except ConversionError RecordDescriptor :=
  checkKeys record (record.fields.map fun field => field.storedAs field.declaredKey) none

/-! ## 3. Top-level records -/

namespace Converter

/-- The key that the mappings give to a field. -/
def mapping? (c : Converter) (field : FieldSpec) : Option String :=
  (c.mappings.find? fun (name, _) => field.answersTo name).map Prod.snd

/-- The place of the identity among the fields of a record. -/
def identityPlace (c : Converter) (record : RecordType) : Except ConversionError Nat :=
  match record.fields.findIdx? fun field => c.mapping? field == some c.identityKey with
  | some place => .ok place
  | none =>
    match c.identityField with
    | some name =>
      match record.fields.findIdx? fun field => field.answersTo name with
      | some place => .ok place
      | none => .error (.fieldMismatch name (.notAFieldOf record.name))
    | none => .ok ((record.fields.findIdx? FieldSpec.identity).getD 0)

/-- The key of a field of a top-level record. -/
def keyOf (c : Converter) (field : FieldSpec) (isIdentity : Bool) : String :=
  match c.mapping? field with
  | some key => key
  | none => if isIdentity then c.identityKey else field.declaredKey

/-- The descriptor of a top-level record, which needs a field to be identified by. -/
def describe (c : Converter) (record : RecordType) : Except ConversionError RecordDescriptor :=
  if record.fields.isEmpty then
    .error (.unsupportedType (record.name ++ " declares no identity field"))
  else do
    let identity ← c.identityPlace record
    checkKeys record
      (record.fields.mapIdx fun place field => field.storedAs (c.keyOf field (place == identity)))
      (some identity)

/-! ## 4. Changes -/

def withRules (c : Converter) (rules : List TypeRule) : Converter :=
  { c with rules := c.rules ++ rules }

def withRule (c : Converter) (rule : TypeRule) : Converter := c.withRules [rule]

/-- Maps a field, given by its name or its name in camel case, to a key. -/
def withMapping (c : Converter) (field key : String) : Converter :=
  { c with mappings := c.mappings ++ [(field, key)] }

def withIdentityField (c : Converter) (field : String) : Converter :=
  { c with identityField := some field }

def withIdentityKey (c : Converter) (key : String) : Converter := { c with identityKey := key }

end Converter

end Dossier
