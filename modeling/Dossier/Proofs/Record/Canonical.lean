/-
# What a field takes, and in which form it keeps it

A value conforms to a type if its parts do: null or a value of the inner type for an optional one,
items that conform for a sequence or a set, and for a record at least as many values as there are
declared fields, each conforming to its field's type (`Value.Conforms`).  The form in which a value
is kept has its sets in order, each item once, and its records without values after the last field
(`Value.Keeps`); it says nothing of how that is brought about.

Main statement: `Value.read_exactly`.  A field whose records are rebuilt field by field takes
exactly the values that conform to its type, and keeps each of them in that form.  If there is an
order on the items of each set, which doubles do not have, there is only one such form.
-/
import Dossier.Proofs.Record.Order

namespace Dossier

/-! ## 1. Conforming values and what is kept of them -/

/-- Every record in a field of the type is rebuilt field by field. -/
def FieldType.Rebuilt (types : Schema) (type : FieldType) : Prop :=
  ∀ id, type.Contains types (.record id) → (types id).checked = true

/-- The items of every set in a field of the type have an order.  Doubles have none. -/
def FieldType.Ordered (types : Schema) (type : FieldType) : Prop :=
  ∀ inner, type.Contains types (.set inner) → ¬ inner.Contains types .double

namespace Value

/-- The value is one of the type, but its records may have more values than fields. -/
inductive Conforms (types : Schema) : FieldType → Value → Prop where
  | plain {type : FieldType} {value : Value} (h : Plain type value) : Conforms types type value
  | absent (inner : FieldType) : Conforms types (.optional inner) .null
  | present {inner : FieldType} {value : Value} (h : Conforms types inner value) :
      Conforms types (.optional inner) value
  | seq {inner : FieldType} {items : List Value} (h : ∀ item ∈ items, Conforms types inner item) :
      Conforms types (.seq inner) (.seq items)
  | set {inner : FieldType} {items : List Value} (h : ∀ item ∈ items, Conforms types inner item) :
      Conforms types (.set inner) (.seq items)
  | record {id : RecordId} {front surplus : List Value}
      (hlength : front.length = (types id).fields.length)
      (h : ∀ pair ∈ ((types id).fields.map FieldSpec.type).zip front,
        Conforms types pair.1 pair.2) :
      Conforms types (.record id) (.record (front ++ surplus))

/-- A field of the type keeps the second value for the first. -/
inductive Keeps (types : Schema) : FieldType → Value → Value → Prop where
  | plain {type : FieldType} {value : Value} (h : Plain type value) : Keeps types type value value
  | absent (inner : FieldType) : Keeps types (.optional inner) .null .null
  | present {inner : FieldType} {value kept : Value} (h : Keeps types inner value kept) :
      Keeps types (.optional inner) value kept
  | seq {inner : FieldType} {items kept : List Value} (hlength : items.length = kept.length)
      (h : ∀ {item k}, (item, k) ∈ items.zip kept → Keeps types inner item k) :
      Keeps types (.seq inner) (.seq items) (.seq kept)
  | set {inner : FieldType} {items kept set : List Value} (hlength : items.length = kept.length)
      (h : ∀ {item k}, (item, k) ∈ items.zip kept → Keeps types inner item k)
      (hset : IsSetOf kept set) : Keeps types (.set inner) (.seq items) (.seq set)
  | record {id : RecordId} {front surplus kept : List Value}
      (hfront : front.length = (types id).fields.length)
      (hkept : kept.length = (types id).fields.length)
      (h : ∀ {pair k}, (pair, k) ∈ (((types id).fields.map FieldSpec.type).zip front).zip kept →
        Keeps types pair.1 pair.2 k) :
      Keeps types (.record id) (.record (front ++ surplus)) (.record kept)

end Value

section

variable {types : Schema}

theorem FieldType.Rebuilt.fields {id : RecordId} (h : (FieldType.record id).Rebuilt types) :
    ∀ type ∈ (types id).fields.map FieldSpec.type, type.Rebuilt types :=
  List.forall_mem_map.mpr fun _ hmem other hother => h other (.record hmem hother)

theorem FieldType.Ordered.fields {id : RecordId} (h : (FieldType.record id).Ordered types) :
    ∀ type ∈ (types id).fields.map FieldSpec.type, type.Ordered types :=
  List.forall_mem_map.mpr fun _ hmem other hother => h other (.record hmem hother)

namespace Value

/-! ## 2. Reading parts -/

theorem readItems_eq_ok_iff {type : FieldType} {items kept : List Value} :
    readItems types type items = .ok kept ↔
      List.Forall₂ (fun item k => read types type item = .ok k) items kept := by
  induction items generalizing kept with
  | nil =>
    rw [readItems, List.forall₂_nil_left_iff, eq_comm]
    exact (Except.ok.injEq ..).to_iff
  | cons item rest ih =>
    have hdo : readItems types type (item :: rest) =
        do return (← read types type item) :: (← readItems types type rest) := by
      rw [readItems]
      cases read types type item with
      | error e => rfl
      | ok first => cases readItems types type rest <;> rfl
    rw [hdo, cons_eq_ok_iff, List.forall₂_cons_left_iff]
    simp only [ih]

/-- Values after the last field are not read. -/
theorem readFields_append {fields : List FieldSpec} {front : List Value} (surplus : List Value)
    (hfront : front.length = fields.length) :
    readFields types fields (front ++ surplus) = readFields types fields front := by
  induction fields generalizing front with
  | nil => rw [readFields, readFields]
  | cons field fields ih =>
    cases front with
    | nil => cases hfront
    | cons value rest =>
      rw [List.cons_append, readFields, readFields, ih (Nat.succ.inj hfront)]

/-- There has to be a value for each field. -/
theorem exists_append_of_readFields {fields : List FieldSpec} {values kept : List Value}
    (h : readFields types fields values = .ok kept) :
    ∃ front surplus, values = front ++ surplus ∧ front.length = fields.length := by
  induction fields generalizing values kept with
  | nil => exact ⟨[], values, rfl, rfl⟩
  | cons field fields ih =>
    cases values with
    | nil =>
      rw [readFields] at h
      cases h
    | cons value rest =>
      rw [RecordType.readFields_cons, cons_eq_ok_iff] at h
      obtain ⟨-, others, -, hrest, -⟩ := h
      obtain ⟨front, surplus, rfl, hfront⟩ := ih hrest
      exact ⟨value :: front, surplus, rfl, congrArg Nat.succ hfront⟩

theorem read_seq_eq_ok_iff {inner : FieldType} {items : List Value} {kept : Value} :
    read types (.seq inner) (.seq items) = .ok kept ↔
      ∃ others, List.Forall₂ (fun item k => read types inner item = .ok k) items others ∧
        kept = .seq others := by
  simp only [read, ← readItems_eq_ok_iff]
  cases readItems types inner items <;> simp [eq_comm]

theorem read_set_eq_ok_iff {inner : FieldType} {items : List Value} {kept : Value} :
    read types (.set inner) (.seq items) = .ok kept ↔
      ∃ others, List.Forall₂ (fun item k => read types inner item = .ok k) items others ∧
        kept = .seq (sortDistinct others) := by
  simp only [read, ← readItems_eq_ok_iff]
  cases readItems types inner items <;> simp [eq_comm]

theorem read_record_eq_ok_iff {id : RecordId} {values : List Value} {kept : Value}
    (hchecked : (types id).checked = true) :
    read types (.record id) (.record values) = .ok kept ↔
      ∃ front surplus others, values = front ++ surplus ∧
        front.length = (types id).fields.length ∧
        List.Forall₂ (fun (pair : FieldType × Value) k => read types pair.1 pair.2 = .ok k)
          (((types id).fields.map FieldSpec.type).zip front) others ∧
        kept = .record others := by
  have hread : read types (.record id) (.record values) = .ok kept ↔
      ∃ others, readFields types (types id).fields values = .ok others ∧ kept = .record others := by
    rw [read, if_pos hchecked]
    cases readFields types (types id).fields values <;> simp [eq_comm]
  rw [hread]
  constructor
  · rintro ⟨others, hothers, rfl⟩
    obtain ⟨front, surplus, rfl, hfront⟩ := exists_append_of_readFields hothers
    rw [readFields_append surplus hfront, RecordType.readFields_eq_ok_iff hfront] at hothers
    exact ⟨front, surplus, others, rfl, hfront, hothers, rfl⟩
  · rintro ⟨front, surplus, others, rfl, hfront, hothers, rfl⟩
    refine ⟨others, ?_, rfl⟩
    rwa [readFields_append surplus hfront, RecordType.readFields_eq_ok_iff hfront]

/-! ## 3. Conforming values are taken -/

theorem Conforms.exists_read {type : FieldType} {value : Value} (h : Conforms types type value)
    (hrebuilt : type.Rebuilt types) : ∃ kept, read types type value = .ok kept := by
  induction h with
  | plain h => cases h <;> exact ⟨_, by rw [read]⟩
  | absent inner => exact ⟨_, by rw [read]⟩
  | @present inner value h ih =>
    cases hnull : value.isNull with
    | true => exact ⟨_, by rw [isNull_iff.mp hnull, read]⟩
    | false =>
      rw [read_optional hnull]
      exact ih fun id hid => hrebuilt id (.optional hid)
  | seq h ih =>
    obtain ⟨kept, hkept⟩ := exists_readItems fun item hmem =>
      ih item hmem fun id hid => hrebuilt id (.seq hid)
    exact ⟨_, by rw [read, hkept]⟩
  | set h ih =>
    obtain ⟨kept, hkept⟩ := exists_readItems fun item hmem =>
      ih item hmem fun id hid => hrebuilt id (.set hid)
    exact ⟨_, by rw [read, hkept]⟩
  | @record id front surplus hfront h ih =>
    obtain ⟨kept, hkept⟩ := exists_readFields (List.forall₂_iff_zip.mpr
      ⟨by rw [List.length_map, hfront], fun hmem =>
        ih _ hmem (hrebuilt.fields _ (List.of_mem_zip hmem).1)⟩)
    exact ⟨_, by rw [read, if_pos (hrebuilt id (.self _)), readFields_append surplus hfront, hkept]⟩

/-! ## 4. What is kept -/

theorem length_zip_fields {id : RecordId} {front : List Value}
    (hfront : front.length = (types id).fields.length) :
    (((types id).fields.map FieldSpec.type).zip front).length = (types id).fields.length := by
  rw [List.length_zip, List.length_map, hfront, Nat.min_self]

/-- **A field keeps a value in canonical form.** -/
theorem keeps_of_read {type : FieldType} {value kept : Value}
    (h : read types type value = .ok kept) (hrebuilt : type.Rebuilt types) :
    Keeps types type value kept := by
  induction value using partsInduction generalizing type kept with
  | step value ih =>
    -- An optional value is read as one of the inner type, so the type has to get smaller there.
    induction type with
    | optional inner ihinner =>
      cases hnull : value.isNull with
      | true =>
        obtain rfl := isNull_iff.mp hnull
        rw [read] at h
        cases h
        exact .absent inner
      | false =>
        rw [read_optional hnull] at h
        exact .present (ihinner h fun id hid => hrebuilt id (.optional hid))
    | seq inner =>
      cases value with
      | seq items =>
        obtain ⟨others, hothers, rfl⟩ := read_seq_eq_ok_iff.mp h
        obtain ⟨hlength, hread⟩ := List.forall₂_iff_zip.mp hothers
        exact .seq hlength fun hmem =>
          ih _ (List.of_mem_zip hmem).1 (hread hmem) fun id hid => hrebuilt id (.seq hid)
      | _ => simp [read, misfit] at h
    | set inner =>
      cases value with
      | seq items =>
        obtain ⟨others, hothers, rfl⟩ := read_set_eq_ok_iff.mp h
        obtain ⟨hlength, hread⟩ := List.forall₂_iff_zip.mp hothers
        refine .set hlength (fun hmem => ?_) (isSetOf_sortDistinct others)
        exact ih _ (List.of_mem_zip hmem).1 (hread hmem) fun id hid => hrebuilt id (.set hid)
      | _ => simp [read, misfit] at h
    | record id =>
      cases value with
      | record values =>
        obtain ⟨front, surplus, others, rfl, hfront, hothers, rfl⟩ :=
          (read_record_eq_ok_iff (hrebuilt id (.self _))).mp h
        obtain ⟨hlength, hread⟩ := List.forall₂_iff_zip.mp hothers
        refine .record hfront (hlength.symm.trans (length_zip_fields hfront)) fun hmem => ?_
        obtain ⟨htype, hvalue⟩ := List.of_mem_zip (List.of_mem_zip hmem).1
        exact ih _ (List.mem_append_left surplus hvalue) (hread hmem) (hrebuilt.fields _ htype)
      | _ => simp [read, misfit] at h
    | _ =>
      cases value <;> simp only [read, misfit, reduceCtorEq, Except.ok.injEq] at h
      all_goals
        subst h
        exact .plain (by constructor)

/-- Only a value that conforms has a canonical form. -/
theorem Keeps.conforms {type : FieldType} {value kept : Value} (h : Keeps types type value kept) :
    Conforms types type value := by
  induction h with
  | plain h => exact .plain h
  | absent inner => exact .absent inner
  | present _ ih => exact .present ih
  | seq hlength _ ih =>
    refine .seq fun item hitem => ?_
    obtain ⟨k, hmem⟩ := exists_mem_zip_left hlength hitem
    exact ih hmem
  | set hlength _ _ ih =>
    refine .set fun item hitem => ?_
    obtain ⟨k, hmem⟩ := exists_mem_zip_left hlength hitem
    exact ih hmem
  | record hfront hkept _ ih =>
    refine .record hfront fun pair hpair => ?_
    obtain ⟨k, hmem⟩ := exists_mem_zip_left ((length_zip_fields hfront).trans hkept.symm) hpair
    exact ih hmem

/-- A field keeps values of its type. -/
theorem Keeps.hasType {type : FieldType} {value kept : Value} (h : Keeps types type value kept) :
    HasType types type kept := by
  induction h with
  | plain h => exact .plain h
  | absent inner => exact .absent inner
  | present _ ih => exact .present ih
  | seq hlength _ ih =>
    refine .seq fun k hk => ?_
    obtain ⟨item, hmem⟩ := exists_mem_zip_right hlength hk
    exact ih hmem
  | set hlength _ hset ih =>
    refine .set fun k hk => ?_
    obtain ⟨item, hmem⟩ := exists_mem_zip_right hlength (hset.subset k hk)
    exact ih hmem
  | @record id front surplus kept hfront hkept _ ih =>
    have hfields : ((types id).fields.map FieldSpec.type).length = front.length := by
      rw [List.length_map, hfront]
    refine .record (forall₂_of_zip_left hfields ?_)
    exact List.forall₂_iff_zip.mpr ⟨(length_zip_fields hfront).trans hkept.symm, ih⟩

/-! ## 5. Only one form -/

theorem Keeps.eq_null {type : FieldType} {kept : Value} (h : Keeps types type .null kept) :
    kept = .null := by
  generalize hvalue : Value.null = value at h
  induction h with
  | plain h => cases h <;> cases hvalue
  | absent inner => rfl
  | present _ ih => exact ih hvalue
  | seq => cases hvalue
  | set => cases hvalue
  | record => cases hvalue

theorem Keeps.read_eq_ok {type : FieldType} {value kept : Value} (h : Keeps types type value kept)
    (hrebuilt : type.Rebuilt types) (hordered : type.Ordered types) :
    read types type value = .ok kept := by
  induction h with
  | plain h => cases h <;> rw [read]
  | absent inner => rw [read]
  | @present inner value kept h ih =>
    cases hnull : value.isNull with
    | true =>
      obtain rfl := isNull_iff.mp hnull
      rw [h.eq_null, read]
    | false =>
      rw [read_optional hnull]
      exact ih (fun id hid => hrebuilt id (.optional hid)) fun type hset =>
        hordered type (.optional hset)
  | seq hlength _ ih =>
    refine read_seq_eq_ok_iff.mpr ⟨_, List.forall₂_iff_zip.mpr ⟨hlength, fun hmem => ?_⟩, rfl⟩
    exact ih hmem (fun id hid => hrebuilt id (.seq hid)) fun type hset => hordered type (.seq hset)
  | @set inner items others set hlength h hset ih =>
    have htype : ∀ item ∈ others, HasType types inner item := by
      intro item hitem
      obtain ⟨_, hmem⟩ := exists_mem_zip_right hlength hitem
      exact (h hmem).hasType
    have heq : ∀ a ∈ others, ∀ b ∈ others, compare a b = .eq → a = b := fun a ha b hb =>
      (htype a ha).eq_of_compare (htype b hb) (hordered inner (.self _))
    obtain rfl := hset.unique (isSetOf_sortDistinct others) heq
    refine read_set_eq_ok_iff.mpr ⟨_, List.forall₂_iff_zip.mpr ⟨hlength, fun hmem => ?_⟩, rfl⟩
    exact ih hmem (fun id hid => hrebuilt id (.set hid)) fun type hset => hordered type (.set hset)
  | @record id front surplus others hfront hkept _ ih =>
    refine (read_record_eq_ok_iff (hrebuilt id (.self _))).mpr
      ⟨front, surplus, others, rfl, hfront, List.forall₂_iff_zip.mpr ⟨?_, fun hmem => ?_⟩, rfl⟩
    · rw [length_zip_fields hfront, hkept]
    · have htype := (List.of_mem_zip (List.of_mem_zip hmem).1).1
      exact ih hmem (hrebuilt.fields _ htype) (hordered.fields _ htype)

/-! ## 6. Exactly the values that conform -/

/-- **A field takes exactly the values that conform to its type, and keeps each in canonical form.**
A field whose sets have an order on their items does so in no other form. -/
theorem read_exactly {type : FieldType} (hrebuilt : type.Rebuilt types) :
    (∀ value, (∃ kept, read types type value = .ok kept) ↔ Conforms types type value) ∧
      (∀ value kept, read types type value = .ok kept → Keeps types type value kept) ∧
      (type.Ordered types → ∀ value kept,
        Keeps types type value kept → read types type value = .ok kept) := by
  refine ⟨fun value => ⟨?_, fun h => h.exists_read hrebuilt⟩, fun value kept h =>
    keeps_of_read h hrebuilt, fun hordered value kept h => h.read_eq_ok hrebuilt hordered⟩
  rintro ⟨kept, h⟩
  exact (keeps_of_read h hrebuilt).conforms

end Value

end

namespace Value.Example

/-- A record with a set, a double, and records of its own type in it. -/
def branch : RecordType where
  name := "Branch"
  fields := [
    { name := "labels", type := .set .string },
    { name := "weight", type := .double },
    { name := "twigs", type := .seq (.record 0) },
    { name := "parent", type := .optional (.record 0) }]

def branches : Schema := fun _ => branch

/-- The types of what is in a branch. -/
def branchTypes : List FieldType :=
  [.record 0, .set .string, .string, .double, .seq (.record 0), .optional (.record 0)]

theorem mem_branchTypes {type other : FieldType} (h : type.Contains branches other)
    (htype : type ∈ branchTypes) : other ∈ branchTypes := by
  induction h with
  | self => exact htype
  | @optional inner other _ ih =>
    obtain rfl : inner = .record 0 := by simpa [branchTypes] using htype
    exact ih (by decide)
  | @seq inner other _ ih =>
    obtain rfl : inner = .record 0 := by simpa [branchTypes] using htype
    exact ih (by decide)
  | @set inner other _ ih =>
    obtain rfl : inner = .string := by simpa [branchTypes] using htype
    exact ih (by decide)
  | @record id field other hmem _ ih =>
    have hfields : ∀ field ∈ branch.fields, field.type ∈ branchTypes := by decide
    exact ih (hfields field hmem)

theorem ordered_branch : (FieldType.record 0).Ordered branches := by
  intro inner hset hdouble
  have hmem : FieldType.set inner ∈ branchTypes := mem_branchTypes hset (by decide)
  obtain rfl : inner = .string := by simpa [branchTypes] using hmem
  cases hdouble

/-- A branch with a twig that has a value too many. -/
def grown : Value :=
  .record [.seq [.string "b", .string "a", .string "b"], .double ⟨0⟩,
    .seq [.record [.seq [], .double ⟨1⟩, .seq [], .null, .bool true]], .null]

def trimmed : Value :=
  .record [.seq [.string "a", .string "b"], .double ⟨0⟩,
    .seq [.record [.seq [], .double ⟨1⟩, .seq [], .null]], .null]

theorem read_grown : read branches (.record 0) grown = .ok trimmed := by
  have hlabels : sortDistinct [.string "b", .string "a", .string "b"] =
      [.string "a", .string "b"] := by rfl
  have hnone : sortDistinct [] = [] := by rfl
  simp [grown, trimmed, read, readItems, readFields, branches, branch, hlabels, hnone]

/-- Labels are put in order, and a twig is kept without what follows its parent.  A branch whose
values end before the parent is none. -/
theorem read_exactly_branch :
    (FieldType.record 0).Rebuilt branches ∧
      (∀ kept, Keeps branches (.record 0) grown kept ↔ kept = trimmed) ∧
      ¬ Conforms branches (.record 0) (.record [.seq [], .double ⟨0⟩, .seq []]) := by
  have hrebuilt : (FieldType.record 0).Rebuilt branches := fun _ _ => rfl
  obtain ⟨htakes, hkept, hkeeps⟩ := read_exactly hrebuilt
  refine ⟨hrebuilt, fun kept => ⟨fun h => ?_, ?_⟩, fun h => ?_⟩
  · exact Except.ok.inj ((hkeeps ordered_branch _ _ h).symm.trans read_grown)
  · rintro rfl
    exact hkept _ _ read_grown
  · obtain ⟨kept, hread⟩ := (htakes _).mpr h
    simp [read, readItems, readFields, branches, branch] at hread

end Value.Example

end Dossier
