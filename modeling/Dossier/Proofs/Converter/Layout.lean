/-
# Under which key a record keeps its identity

The identity of a record is found before the keys of its fields are, and each by its own rules.  A
mapping to the identity key makes its field the identity, before anything else.  But a mapping also
counts first for the key of a field, so it can send the identity away: a field that is the identity
for another reason, and is mapped to some other key, is stored there.  Then no field, or one that
has nothing to do with the identity, stands under the identity key, where a repository looks for it.

This is the only way.  As keys are distinct, exactly one field is stored under the identity key, and
it is the identity, if and only if no mapping sends the identity elsewhere
(`RecordDescriptor.identifiedBy_iff`).

Main statement: `Repository.identity_stored` (every encoded record has its identity under the
mapped key or else the identity key, which is that of the repository's queries).
-/
import Dossier.Proofs.Converter.RoundTrip
import Dossier.Repository.Basic

namespace Dossier

/-! ## 1. What a document keeps of a record -/

namespace Converter

variable {c : Converter} {types : Schema} {id : RecordId} {record : RecordType}
variable {descriptor : RecordDescriptor}

/-- **A document keeps each field under its key**, whatever the rules. -/
theorem stored_of_encode {values : List Value} {d : Document}
    (hdescribe : c.describe (types id) = .ok descriptor)
    (hencode : c.encode types id values = .ok d) :
    d.keys = descriptor.keys ∧ ∀ {i : Nat} {field : FieldDescriptor},
      descriptor.fields[i]? = some field → ∃ value stored, values[i]? = some value ∧
        encodeValue types c.rules (nestedDescriptor types) field.type value = .ok stored ∧
        d.get? field.key = some stored := by
  obtain ⟨_, hdescribed, hfields⟩ := bind_eq_ok_iff.mp hencode
  cases Except.ok.inj (hdescribe.symm.trans hdescribed)
  obtain ⟨hlength, heach⟩ := encodeFields_eq_ok_iff.mp hfields
  have hkeys : d.keys = descriptor.keys := keys_of_encodeEach hlength heach
  have hnodup : d.keys.Nodup := hkeys ▸ (RecordDescriptor.Follows.of_describe hdescribe).nodup
  refine ⟨hkeys, fun {i field} hfield => ?_⟩
  obtain ⟨hi, -⟩ := List.getElem?_eq_some_iff.mp hfield
  have hvalue := List.getElem?_eq_getElem (hlength ▸ hi)
  obtain ⟨stored, hget, hstored⟩ := exists_stored hnodup heach hfield hvalue
  exact ⟨_, stored, hvalue, hstored, hget⟩

/-! ## 2. The identity of a descriptor -/

theorem identityPlace_lt {place : Nat} (hfields : record.fields ≠ [])
    (h : c.identityPlace record = .ok place) : place < record.fields.length := by
  have hfound {p : FieldSpec → Bool} {place : Nat} (h : record.fields.findIdx? p = some place) :
      place < record.fields.length := (List.findIdx?_eq_some_iff_getElem.mp h).1
  unfold identityPlace at h
  split at h
  · next hmapped =>
    cases h
    exact hfound hmapped
  · split at h
    · split at h
      · next hnamed =>
        cases h
        exact hfound hnamed
      · cases h
    · cases h
      cases hmarked : record.fields.findIdx? FieldSpec.identity with
      | some place => exact hfound hmarked
      | none => exact List.length_pos_of_ne_nil hfields

/-- No mapping sends the field elsewhere than to the identity key. -/
def MapsToIdentity (c : Converter) (field : FieldSpec) : Prop :=
  ∀ key, c.mapping? field = some key → key = c.identityKey

/-- The key of the identity. -/
def keyOfIdentity (c : Converter) (field : FieldSpec) : String :=
  (c.mapping? field).getD c.identityKey

theorem keyOfIdentity_eq_iff {field : FieldSpec} :
    c.keyOfIdentity field = c.identityKey ↔ c.MapsToIdentity field := by
  unfold keyOfIdentity MapsToIdentity
  cases c.mapping? field with
  | none => simp
  | some key => simp

theorem exists_identity_of_describe (h : c.describe record = .ok descriptor) :
    ∃ place spec field, descriptor.identity = some place ∧ record.fields[place]? = some spec ∧
      descriptor.fields[place]? = some field ∧ field = spec.storedAs (c.keyOfIdentity spec) := by
  unfold describe at h
  split at h
  · cases h
  · next hfields =>
    obtain ⟨place, hplace, hcheck⟩ := bind_eq_ok_iff.mp h
    obtain ⟨rfl, -⟩ := distinctKeys_of_checkKeys hcheck
    have hlt := identityPlace_lt (by simpa using hfields) hplace
    refine ⟨place, record.fields[place], _, rfl, List.getElem?_eq_getElem hlt, ?_, rfl⟩
    rw [List.getElem?_mapIdx, List.getElem?_eq_getElem hlt, Option.map_some, keyOf,
      beq_self_eq_true, if_pos rfl]
    cases hmapping : c.mapping? record.fields[place] with
    | none => rw [keyOfIdentity, hmapping]; rfl
    | some key => rw [keyOfIdentity, hmapping]; rfl

end Converter

/-- Exactly one field is stored under the key, and it is the identity. -/
def RecordDescriptor.IdentifiedBy (descriptor : RecordDescriptor) (key : String) : Prop :=
  ∃ place identity, descriptor.identity = some place ∧ descriptor.fields[place]? = some identity ∧
    ∀ (i : Nat) field, descriptor.fields[i]? = some field → (field.key = key ↔ i = place)

/-- Distinct keys, so that the identity alone has the key if it has it at all. -/
theorem RecordDescriptor.identifiedBy_iff {descriptor : RecordDescriptor}
    (hnodup : descriptor.keys.Nodup) {place : Nat} {identity : FieldDescriptor}
    (hplace : descriptor.identity = some place)
    (hidentity : descriptor.fields[place]? = some identity) {key : String} :
    descriptor.IdentifiedBy key ↔ identity.key = key := by
  constructor
  · rintro ⟨other, _, hother, -, hkey⟩
    cases Option.some.inj (hplace.symm.trans hother)
    exact (hkey place identity hidentity).mpr rfl
  · rintro rfl
    refine ⟨place, identity, hplace, hidentity, fun i field hfield => ⟨fun h => ?_, ?_⟩⟩
    · exact descriptor.place_eq hnodup hfield hidentity h
    · rintro rfl
      cases Option.some.inj (hfield.symm.trans hidentity)
      rfl

/-! ## 3. Where a repository looks -/

namespace Repository

variable {r : Repository} {descriptor : RecordDescriptor}

theorem keys_of_identityQuery {id : Literal} {query : Document}
    (h : r.identityQuery id = .done (.ok query)) : query.keys = [r.converter.identityKey] := by
  unfold identityQuery Condition.compile at h
  split at h
  · cases h
  · cases h
    rfl

/-- **Where the identity is stored.**  A descriptor has an identity, under the key that is mapped to
it or else the identity key, and there every encoded record has the value of its identity.  If no
mapping sends it elsewhere, exactly one field has the identity key, it is the identity, and all
queries for identities ask for this key; otherwise this is not so. -/
theorem identity_stored (h : r.converter.describe (r.types r.record) = .ok descriptor) :
    ∃ place spec identity, descriptor.identity = some place ∧
      (r.types r.record).fields[place]? = some spec ∧
      descriptor.fields[place]? = some identity ∧
      identity = spec.storedAs (r.converter.keyOfIdentity spec) ∧
      (descriptor.IdentifiedBy r.converter.identityKey ↔ r.converter.MapsToIdentity spec) ∧
      ∀ values d, r.converter.encode r.types r.record values = .ok d → ∃ value stored,
        values[place]? = some value ∧
        encodeValue r.types r.converter.rules (nestedDescriptor r.types) identity.type value =
          .ok stored ∧
        d.get? identity.key = some stored ∧
        (r.converter.MapsToIdentity spec →
          ∀ id query, r.identityQuery id = .done (.ok query) →
            ∃ key, query.keys = [key] ∧ d.get? key = some stored) := by
  obtain ⟨place, spec, identity, hplace, hspec, hidentity, hstored⟩ :=
    Converter.exists_identity_of_describe h
  have hkey : identity.key = r.converter.keyOfIdentity spec := by rw [hstored]; rfl
  refine ⟨place, spec, identity, hplace, hspec, hidentity, hstored, ?_, fun values d hencode => ?_⟩
  · rw [RecordDescriptor.identifiedBy_iff (RecordDescriptor.Follows.of_describe h).nodup hplace
      hidentity, hkey, Converter.keyOfIdentity_eq_iff]
  · obtain ⟨-, hfields⟩ := Converter.stored_of_encode h hencode
    obtain ⟨value, stored, hvalue, hencoded, hget⟩ := hfields hidentity
    refine ⟨value, stored, hvalue, hencoded, hget, fun hmaps id query hquery => ?_⟩
    refine ⟨_, keys_of_identityQuery hquery, ?_⟩
    rw [← Converter.keyOfIdentity_eq_iff.mpr hmaps, ← hkey]
    exact hget

namespace Example

/-- A note, declared to be identified by its text. -/
def note : Schema := fun _ =>
  ⟨"Note", [⟨"name", .string, none, false⟩, ⟨"long_text", .string, none, true⟩], true⟩

/-- Notes whose text is mapped to the identity key, which is one of their own. -/
def notesByText : Repository where
  types := note
  record := 0
  collection := "notes"
  converter := { mappings := [("longText", "text"), ("name", "n")], identityKey := "text" }

theorem encode_note {c : Converter} (hrules : c.rules = TypeRule.standard)
    {nameKey textKey : String} {identity : Option Nat}
    (h : c.describe (note 0) = .ok ⟨"Note", [⟨"name", .string, nameKey⟩,
      ⟨"long_text", .string, textKey⟩], identity⟩) (name text : String) :
    c.encode note 0 [.string name, .string text] =
      .ok [(nameKey, .string name), (textKey, .string text)] := by
  refine Converter.encode_of_entries h rfl ?_
  rw [hrules]
  exact .cons ⟨rfl, encodeValue_string name⟩ (.cons ⟨rfl, encodeValue_string text⟩ .nil)

theorem identity_stored_notesByText :
    ∃ descriptor, notesByText.converter.describe (note 0) = .ok descriptor ∧
      descriptor.IdentifiedBy "text" ∧
      ∃ d, notesByText.converter.encode note 0 [.string "a", .string "b"] = .ok d ∧
        d.get? "text" = some (.string "b") := by
  have hdescribe : notesByText.converter.describe (note 0) = .ok ⟨"Note",
      [⟨"name", .string, "n"⟩, ⟨"long_text", .string, "text"⟩], some 1⟩ := rfl
  have hencode : notesByText.converter.encode note 0 [.string "a", .string "b"] =
      .ok [("n", .string "a"), ("text", .string "b")] := encode_note rfl hdescribe "a" "b"
  obtain ⟨place, spec, identity, hplace, hspec, hidentity, -, hiff, hrecords⟩ :=
    identity_stored (r := notesByText) hdescribe
  cases hplace
  cases hspec
  cases hidentity
  obtain ⟨value, stored, hvalue, hstored, hget, -⟩ := hrecords _ _ hencode
  cases hvalue
  have hmaps : notesByText.converter.MapsToIdentity ⟨"long_text", .string, none, true⟩ := by
    rintro key hkey
    cases hkey
    rfl
  cases (encodeValue_string "b").symm.trans hstored
  exact ⟨_, hdescribe, hiff.mpr hmaps, _, hencode, hget⟩

/-- A mapping that sends the identity away from the identity key. -/
def textElsewhere : Converter := { mappings := [("longText", "text")] }

theorem not_identifiedBy_elsewhere :
    ∃ descriptor, textElsewhere.describe (note 0) = .ok descriptor ∧
      ¬ descriptor.IdentifiedBy textElsewhere.identityKey ∧
      ∃ d, textElsewhere.encode note 0 [.string "a", .string "b"] = .ok d ∧
        d.get? textElsewhere.identityKey = none := by
  have hdescribe : textElsewhere.describe (note 0) = .ok ⟨"Note",
      [⟨"name", .string, "name"⟩, ⟨"long_text", .string, "text"⟩], some 1⟩ := rfl
  refine ⟨_, hdescribe, ?_, _, encode_note rfl hdescribe "a" "b", rfl⟩
  rw [RecordDescriptor.identifiedBy_iff (by decide) rfl rfl]
  decide

end Example

end Repository

end Dossier
