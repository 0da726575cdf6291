/-
# The document of an entry

A repository relies on the settings of its converter (`Repository.Keyed`): the standard rules,
distinct keys without points, and an identity of a type that can be told apart, stored under the
key by which the store tells documents apart.

`Repository.Keeps` relates a document to the entry that it stands for, field by field: its identity
has the entry's key, and each field reads as the entry's value.  It is what every operation of the
repository keeps up: a record that is encoded is kept (`keeps_of_encode`), a document that is kept
decodes to its entry (`Keeps.decode_eq`), and an update of the fields that a record supplies merges
the two entries (`Keeps.merge`).
-/
import Dossier.Proofs.Record.Keeping
import Dossier.Proofs.Repository.Register
import Dossier.Proofs.Store.Fields

namespace Dossier

namespace Repository

/-! ## 1. What a repository relies on -/

/-- The converter's settings suit a store: the rules are the standard ones, the identity field is
stored under the key by which the store tells documents apart and has a type on which the store
and its queries agree, and no key is a path. -/
structure Keyed (r : Repository) (descriptor : RecordDescriptor) (place : Nat)
    (identity : FieldDescriptor) : Prop where
  rules : r.converter.rules = TypeRule.standard
  described : r.converter.describe (r.types r.record) = .ok descriptor
  identityKey : r.converter.identityKey = storeIdentityKey
  identified : descriptor.identity = some place
  field : descriptor.fields[place]? = some identity
  key : identity.key = storeIdentityKey
  type : identity.type ∈ FieldType.identifying
  plain : ∀ key ∈ descriptor.keys, '.' ∉ key.toList

/-- The record has values of its types, outside leap seconds, and can be encoded. -/
structure Storable (r : Repository) (values : List Value) : Prop where
  typed : (r.types r.record).Takes r.types values
  ordinary : Value.AllOrdinary values
  encodes : ∃ d, r.converter.encode r.types r.record values = .ok d

/-! ## 2. Documents and entries -/

/-- A stored value reads as the value that the record keeps, and is null for null alone. -/
structure KeepsField (r : Repository) (type : FieldType) (stored : Bson) (kept : Value) :
    Prop where
  reads : ∃ value,
    decodeValue r.types TypeRule.standard (nestedDescriptor r.types) type stored = .ok value ∧
      (r.types r.record).acceptField r.types type value = .ok kept
  isNull : stored.isNull = kept.isNull

/-- The document stands for the record of an identity. -/
structure Keeps (r : Repository) (descriptor : RecordDescriptor) (identity : FieldDescriptor)
    (d : Document) (record : Literal × List Value) : Prop where
  keys : d.keys = descriptor.keys
  identity : ∃ stored, d.get? storeIdentityKey = some stored ∧ stored.Keyed identity.type record.1
  fields : List.Forall₂ (fun field kept => r.KeepsField field.type (d.getOrNull field.key) kept)
    descriptor.fields record.2

variable {r : Repository} {descriptor : RecordDescriptor} {place : Nat} {identity : FieldDescriptor}

theorem Keyed.follows (hr : r.Keyed descriptor place identity) :
    descriptor.Follows (r.types r.record) :=
  .of_describe hr.described

/-- Only the identity is stored under the identity key. -/
theorem Keyed.key_eq_iff (hr : r.Keyed descriptor place identity) {i : Nat}
    {field : FieldDescriptor} (hfield : descriptor.fields[i]? = some field) :
    field.key = storeIdentityKey ↔ i = place := by
  constructor
  · intro h
    exact descriptor.place_eq hr.follows.nodup hfield hr.field (h.trans hr.key.symm)
  · rintro rfl
    cases Option.some.inj (hfield.symm.trans hr.field)
    exact hr.key

/-! ## 3. What is encoded is kept -/

/-- What a value is encoded as stands for what the record keeps of the value's floor. -/
theorem keepsField_of_encode {type : FieldType} {value kept : Value} {stored : Bson}
    (htype : value.HasType r.types type) (hordinary : value.Ordinary)
    (hstored : encodeValue r.types TypeRule.standard (nestedDescriptor r.types) type value =
      .ok stored)
    (haccept : (r.types r.record).acceptField r.types type value.floored = .ok kept) :
    r.KeepsField type stored kept := by
  have hnull : kept.isNull = value.isNull := by
    obtain ⟨other, hother, hnull⟩ := RecordType.exists_acceptField htype.floored
    cases Except.ok.inj (haccept.symm.trans hother)
    exact hnull.trans (Value.isNull_floored value)
  exact ⟨⟨_, (htype.comesBack hordinary hstored).2, haccept⟩,
    (htype.isNull_encodeValue hordinary hstored).trans hnull.symm⟩

/-- **The document of a record stands for the record's entry.** -/
theorem keeps_of_encode (hr : r.Keyed descriptor place identity) {values : List Value}
    (htyped : (r.types r.record).Takes r.types values) (hordinary : Value.AllOrdinary values)
    {d : Document} (hencode : r.converter.encode r.types r.record values = .ok d) :
    ∃ entry, r.entry values = .ok entry ∧
      r.Keeps descriptor identity d ((identityOf place values).atMillis, entry) := by
  obtain ⟨_, hdescribed, hfields⟩ := bind_eq_ok_iff.mp hencode
  cases Except.ok.inj (hr.described.symm.trans hdescribed)
  rw [hr.rules] at hfields
  obtain ⟨hlaid, -⟩ := comesBack_fields hr.follows
    (htyped.imp fun _ _ hvalue => hvalue.comesBack) hordinary hfields
  obtain ⟨hlength, heach⟩ := encodeFields_eq_ok_iff.mp hfields
  have hnodup : d.keys.Nodup := hlaid.keys ▸ hr.follows.nodup
  have hlengths : descriptor.fields.length = (r.types r.record).fields.length := by
    rw [← htyped.length_eq, hlength]
  -- The value of a field has its type, and is encoded as what stands under its key.
  have hfield : ∀ {i : Nat} {field : FieldDescriptor} {value : Value},
      descriptor.fields[i]? = some field → values[i]? = some value →
        value.HasType r.types field.type ∧ ∃ stored, d.get? field.key = some stored ∧
          encodeValue r.types TypeRule.standard (nestedDescriptor r.types) field.type value =
            .ok stored := by
    intro i field value hfield hvalue
    refine ⟨(forall₂_iff_getElem?.mp htyped).2 i _ _ ?_ hvalue,
      exists_stored hnodup heach hfield hvalue⟩
    rw [← hr.follows.types, List.getElem?_map, hfield, Option.map_some]
  obtain ⟨entry, hentry⟩ := htyped.floored.exists_accept
  refine ⟨entry, hentry, hlaid.keys, ?_, ?_⟩
  · obtain ⟨hplace, -⟩ := List.getElem?_eq_some_iff.mp hr.field
    have hvalue := List.getElem?_eq_getElem (hlength ▸ hplace)
    obtain ⟨htype, stored, hget, hstored⟩ := hfield hr.field hvalue
    have hid : identityOf place values = values[place].literal := by
      rw [identityOf, hvalue, Option.elim_some]
    refine ⟨stored, hr.key ▸ hget, ?_⟩
    rw [hid]
    exact htype.keyed hr.type (hordinary.mem _ (List.mem_of_getElem? hvalue)) hstored
  · obtain ⟨hcount, haccepted⟩ := forall₂_iff_getElem?.mp
      ((RecordType.accept_eq_ok_iff htyped.floored.length_eq).mp hentry)
    refine forall₂_iff_getElem?.mpr ⟨?_, fun i field kept hf hkept => ?_⟩
    · rw [← hcount, List.length_zip, List.length_map, List.length_map, hlength, hlengths,
        Nat.min_self]
    · obtain ⟨hi, -⟩ := List.getElem?_eq_some_iff.mp hf
      have hvalue := List.getElem?_eq_getElem (hlength ▸ hi)
      obtain ⟨htype, stored, hget, hstored⟩ := hfield hf hvalue
      have haccept := haccepted i (field.type, values[i].floored) kept
        (List.getElem?_zip_eq_some.mpr
          ⟨by rw [← hr.follows.types, List.getElem?_map, hf, Option.map_some],
            by rw [List.getElem?_map, hvalue, Option.map_some]⟩) hkept
      have hgetOrNull : d.getOrNull field.key = stored := by
        rw [Document.getOrNull, hget, Option.getD_some]
      rw [hgetOrNull]
      exact keepsField_of_encode htype (hordinary.mem _ (List.mem_of_getElem? hvalue)) hstored
        haccept

/-! ## 4. What is kept is read -/

theorem exists_forall₂ {α β γ : Type} {P : α → β → Prop} {Q : α → β → γ → Prop} {as : List α}
    {cs : List γ} (h : List.Forall₂ (fun a c => ∃ b, P a b ∧ Q a b c) as cs) :
    ∃ bs, List.Forall₂ P as bs ∧
      List.Forall₂ (fun (pair : α × β) c => Q pair.1 pair.2 c) (as.zip bs) cs := by
  induction h with
  | nil => exact ⟨[], .nil, .nil⟩
  | cons hfirst _ ih =>
    obtain ⟨b, hb, hc⟩ := hfirst
    obtain ⟨bs, hbs, hcs⟩ := ih
    exact ⟨b :: bs, .cons hb hbs, .cons hc hcs⟩

/-- **A document reads as the entry that it stands for.** -/
theorem Keeps.decode_eq (hr : r.Keyed descriptor place identity) {d : Document}
    {record : Literal × List Value} (h : r.Keeps descriptor identity d record) :
    r.converter.decode r.types r.record d = .ok record.2 := by
  obtain ⟨values, hdecode, haccept⟩ := exists_forall₂ (h.fields.imp fun _ _ hfield => hfield.reads)
  have hlength : values.length = (r.types r.record).fields.length := by
    rw [← hdecode.length_eq, ← List.length_map FieldDescriptor.type, hr.follows.types,
      List.length_map]
  refine bind_eq_ok_iff.mpr ⟨values, bind_eq_ok_iff.mpr ⟨descriptor, hr.described, ?_⟩, ?_⟩
  · rw [hr.rules]
    exact decodeFields_eq_ok_iff.mpr hdecode
  · rw [RecordType.accept_eq_ok_iff hlength, ← hr.follows.types, List.zip_map_left,
      List.forall₂_map_left_iff]
    exact haccept

/-- A document is found by the literals of its identity, and by no others. -/
theorem Keeps.holds_identityQuery {d : Document} {record : Literal × List Value}
    (h : r.Keeps descriptor identity d record) {value : Value}
    (hvalue : Value.Plain identity.type value) :
    Query.holds d value.literal.identityQuery = .ok (record.1 = value.literal.atMillis) := by
  obtain ⟨stored, hget, hkeyed⟩ := h.identity
  exact hkeyed.holds_identityQuery hget hvalue

/-! ## 5. What an update supplies -/

/-- Each field has a stored value, which reads as the entry's value in the same place. -/
theorem Keeps.exists_field {d : Document} {record : Literal × List Value}
    (h : r.Keeps descriptor identity d record) {i : Nat} {field : FieldDescriptor}
    (hfield : descriptor.fields[i]? = some field) :
    ∃ stored kept, d.get? field.key = some stored ∧ record.2[i]? = some kept ∧
      r.KeepsField field.type stored kept := by
  obtain ⟨hlength, hfields⟩ := forall₂_iff_getElem?.mp h.fields
  obtain ⟨hi, -⟩ := List.getElem?_eq_some_iff.mp hfield
  have hkept := List.getElem?_eq_getElem (hlength ▸ hi)
  have hkey : field.key ∈ d.keys := by
    rw [h.keys]
    exact List.mem_map_of_mem (List.mem_of_getElem? hfield)
  obtain ⟨stored, hstored⟩ := Option.isSome_iff_exists.mp ((d.mem_keys_iff_get? field.key).mp hkey)
  have hget : d.getOrNull field.key = stored := by
    rw [Document.getOrNull, hstored, Option.getD_some]
  exact ⟨stored, _, hstored, hkept, hget ▸ hfields i _ _ hfield hkept⟩

/-- The fields that are set are the record's own, other than the identity. -/
theorem Keeps.suppliedFields_keys (hr : r.Keyed descriptor place identity) {d : Document}
    {record : Literal × List Value} (h : r.Keeps descriptor identity d record) {key : String}
    (hkey : key ∈ Document.keys (r.suppliedFields d)) :
    key ∈ descriptor.keys ∧ key ≠ storeIdentityKey ∧ '.' ∉ key.toList := by
  obtain ⟨entry, hentry, rfl⟩ := List.mem_map.mp hkey
  obtain ⟨hmem, hsupplied⟩ := List.mem_filter.mp hentry
  rw [Bool.and_eq_true, bne_iff_ne, hr.identityKey] at hsupplied
  have hkeys : entry.1 ∈ descriptor.keys := h.keys ▸ List.mem_map_of_mem hmem
  exact ⟨hkeys, hsupplied.1, hr.plain _ hkeys⟩

theorem Keeps.get?_suppliedFields (hr : r.Keyed descriptor place identity) {d : Document}
    {record : Literal × List Value} (h : r.Keeps descriptor identity d record) (key : String) :
    Document.get? (r.suppliedFields d) key =
      (d.get? key).filter fun value => key != storeIdentityKey && !value.isNull := by
  have hnodup : d.keys.Nodup := h.keys ▸ hr.follows.nodup
  unfold suppliedFields
  rw [Document.get?_filter hnodup, hr.identityKey]

/-- What an update sets under the key of a field is settled by the value that the record
supplies. -/
theorem Keeps.exists_supplied (hr : r.Keyed descriptor place identity) {d : Document}
    {record : Literal × List Value} (h : r.Keeps descriptor identity d record) {i : Nat}
    {field : FieldDescriptor} (hfield : descriptor.fields[i]? = some field) :
    ∃ stored new, (supplied place record.2)[i]? = some new ∧
      Document.get? (r.suppliedFields d) field.key = (if new.isNull then none else some stored) ∧
      (new.isNull = false → r.KeepsField field.type stored new) := by
  obtain ⟨stored, kept, hstored, hkept, hkeeps⟩ := h.exists_field hfield
  rw [h.get?_suppliedFields hr, hstored, Option.filter_some]
  by_cases hplace : i = place
  · obtain ⟨hi, -⟩ := List.getElem?_eq_some_iff.mp hkept
    have hkey : (field.key != storeIdentityKey) = false :=
      bne_eq_false_iff_eq.mpr ((hr.key_eq_iff hfield).mpr hplace)
    subst hplace
    exact ⟨stored, .null, List.getElem?_set_self hi, by rw [hkey]; rfl, fun e => nomatch e⟩
  · have hkey : (field.key != storeIdentityKey) = true :=
      bne_iff_ne.mpr fun e => hplace ((hr.key_eq_iff hfield).mp e)
    refine ⟨stored, kept, (List.getElem?_set_ne (Ne.symm hplace)).trans hkept, ?_, fun _ => hkeeps⟩
    rw [hkey, hkeeps.isNull]
    cases kept.isNull <;> rfl

/-- No field is set exactly if all values that the record supplies are null. -/
theorem Keeps.isEmpty_suppliedFields (hr : r.Keyed descriptor place identity) {d : Document}
    {record : Literal × List Value} (h : r.Keeps descriptor identity d record) :
    (r.suppliedFields d).isEmpty = (supplied place record.2).all Value.isNull := by
  rw [Bool.eq_iff_iff, List.isEmpty_iff, List.all_eq_true]
  constructor
  · intro hnone value hvalue
    obtain ⟨i, hi⟩ := List.mem_iff_getElem?.mp hvalue
    have hlength : descriptor.fields.length = (supplied place record.2).length := by
      rw [supplied, List.length_set, h.fields.length_eq]
    obtain ⟨hlt, -⟩ := List.getElem?_eq_some_iff.mp hi
    obtain ⟨stored, new, hnew, hget, -⟩ :=
      h.exists_supplied hr (List.getElem?_eq_getElem (hlength ▸ hlt))
    cases Option.some.inj (hi.symm.trans hnew)
    rw [hnone, Document.get?_nil] at hget
    by_contra hvalue
    rw [if_neg hvalue] at hget
    cases hget
  · intro hnull
    refine List.eq_nil_iff_forall_not_mem.mpr fun entry hentry => ?_
    have hkey : entry.1 ∈ Document.keys (r.suppliedFields d) := List.mem_map_of_mem hentry
    obtain ⟨hdeclared, -⟩ := h.suppliedFields_keys hr hkey
    obtain ⟨field, hmem, hfield⟩ := List.mem_map.mp hdeclared
    obtain ⟨i, hi⟩ := List.mem_iff_getElem?.mp hmem
    obtain ⟨stored, new, hnew, hget, -⟩ := h.exists_supplied hr hi
    rw [if_pos (hnull new (List.mem_of_getElem? hnew)), hfield] at hget
    have := (Document.mem_keys_iff_get? _ _).mp hkey
    rw [hget] at this
    cases this

/-- **Setting the supplied fields merges the entries.**  The identity stays. -/
theorem Keeps.merge (hr : r.Keyed descriptor place identity) {d new : Document}
    {key other : Literal} {entry values : List Value}
    (h : r.Keeps descriptor identity d (key, entry))
    (hnew : r.Keeps descriptor identity new (other, values)) :
    r.Keeps descriptor identity (d.insertAll (r.suppliedFields new))
      (key, merge entry (supplied place values)) := by
  have hnodup : (Document.keys (r.suppliedFields new)).Nodup :=
    (hnew.keys ▸ hr.follows.nodup : new.keys.Nodup).sublist (Document.keys_filter_sublist _ new)
  have hkeys : (d.insertAll (r.suppliedFields new)).keys = descriptor.keys := by
    rw [← h.keys]
    exact Document.keys_insertAll fun k hk => h.keys ▸ (hnew.suppliedFields_keys hr hk).1
  refine ⟨hkeys, ?_, forall₂_iff_getElem?.mpr ⟨?_, fun i field kept hfield hkept => ?_⟩⟩
  · obtain ⟨stored, hget, hkeyed⟩ := h.identity
    refine ⟨stored, ?_, hkeyed⟩
    rw [Document.get?_insertAll hnodup,
      Document.get?_eq_none_of_notMem fun hk => (hnew.suppliedFields_keys hr hk).2.1 rfl, hget]
    rfl
  · rw [Dossier.merge, supplied, List.length_zipWith, List.length_set, ← h.fields.length_eq,
      ← hnew.fields.length_eq, Nat.min_self]
  · obtain ⟨stored, old, hstored, hold, hkeeps⟩ := h.exists_field hfield
    obtain ⟨storedNew, v, hv, hget, hkeepsNew⟩ := hnew.exists_supplied hr hfield
    rw [Dossier.merge, List.getElem?_zipWith, hold, hv] at hkept
    replace hkept : some (if v.isNull then old else v) = some kept := hkept
    rw [Document.getOrNull, Document.get?_insertAll hnodup, hget, hstored]
    cases hnull : v.isNull with
    | true =>
      rw [hnull] at hkept
      cases hkept
      exact hkeeps
    | false =>
      rw [hnull] at hkept
      cases hkept
      exact hkeepsNew hnull

end Repository

end Dossier
