/-
# What rewriting a document does to its data

A document that is read and written again takes the form of its record: integers change their width
or become doubles, texts become dates, missing keys become null.  `Bson.SameData` says when the data
are nevertheless the same, and `Bson.Lossy` where they are not: at an integer that is no double, and
at a date that is no instant.  Both are read, and neither can be written as it was.  There are no
other losses (`Bson.Reads.exists_encodeValue`), by induction on the reading.

Main statement: `Converter.sameData_iff_not_lossy`.
-/
import Dossier.Proofs.Converter.Soundness
import Dossier.Proofs.Double.Integers
import Dossier.Proofs.Time.Conversion
import Mathlib.Tactic.FinCases

namespace Dossier

namespace Bson

/-! ## 1. The same data -/

/-- The number that a stored value is, whatever its width. -/
def exactNumber? : Bson → Option ℚ
  | .int32 n => some n.toInt
  | .int64 n => some n.toInt
  | .double x => x.toRat?
  | _ => none

/-- The milliseconds since 1970 of a date, or of the instant that a text stands for. -/
def millis? : Bson → Option ℤ
  | .date millis => some millis.toInt
  | .string text => (Instant.parse? text).map Instant.toMillis
  | _ => none

/-- For a reader of the type, the two stored values are the same data.  Of a nested document this
concerns the declared keys, where a missing one counts as null. -/
inductive SameData (types : Schema) : FieldType → Bson → Bson → Prop where
  | same (type : FieldType) (stored : Bson) : SameData types type stored stored
  | number {type : FieldType} {stored again : Bson} {q : ℚ} (h : stored.exactNumber? = some q)
      (hagain : again.exactNumber? = some q) : SameData types type stored again
  | instant {stored again : Bson} {millis : ℤ} (h : stored.millis? = some millis)
      (hagain : again.millis? = some millis) : SameData types .instant stored again
  | timestamp {stored again : Bson} {millis : ℤ} (h : stored.millis? = some millis)
      (hagain : again.millis? = some millis) : SameData types .timestamp stored again
  | optional {inner : FieldType} {stored again : Bson} (h : SameData types inner stored again) :
      SameData types (.optional inner) stored again
  | seq {inner : FieldType} {items others : List Bson} (hlength : items.length = others.length)
      (h : ∀ item other, (item, other) ∈ items.zip others → SameData types inner item other) :
      SameData types (.seq inner) (.array items) (.array others)
  | set {inner : FieldType} {items others : List Bson} (hlength : items.length = others.length)
      (h : ∀ item other, (item, other) ∈ items.zip others → SameData types inner item other) :
      SameData types (.set inner) (.array items) (.array others)
  | record {id : RecordId} {descriptor : RecordDescriptor} {d again : Document}
      (hdescriptor : describeNested (types id) = .ok descriptor)
      (h : ∀ field ∈ descriptor.fields,
        SameData types field.type (d.getOrNull field.key) (again.getOrNull field.key)) :
      SameData types (.record id) (.document d) (.document again)

/-- Somewhere in the stored value the type has no room for what it reads: for an integer of more
than 53 binary digits where a double is wanted, or for a date outside the years of instants. -/
inductive Lossy (types : Schema) : FieldType → Bson → Prop where
  | integer {n : Int64} (h : ¬ Double.Fits n.toInt) : Lossy types .double (.int64 n)
  | date {millis : Int64} (h : millis.toInt < Instant.first.toMillis ∨
      Instant.last.toMillis < millis.toInt) : Lossy types .instant (.date millis)
  | optional {inner : FieldType} {stored : Bson} (h : Lossy types inner stored) :
      Lossy types (.optional inner) stored
  | seq {inner : FieldType} {items : List Bson} {item : Bson} (hmem : item ∈ items)
      (h : Lossy types inner item) : Lossy types (.seq inner) (.array items)
  | set {inner : FieldType} {items : List Bson} {item : Bson} (hmem : item ∈ items)
      (h : Lossy types inner item) : Lossy types (.set inner) (.array items)
  | record {id : RecordId} {descriptor : RecordDescriptor} {d : Document} {field : FieldDescriptor}
      (hdescriptor : describeNested (types id) = .ok descriptor) (hmem : field ∈ descriptor.fields)
      (h : Lossy types field.type (d.getOrNull field.key)) : Lossy types (.record id) (.document d)

variable {types : Schema}

/-! ## 2. Single values -/

theorem sameData_integer_iff {n : Int64} {x : Double} :
    SameData types .double (.int64 n) (.double x) ↔ x.toRat? = some (n.toInt : ℚ) := by
  constructor
  · intro h
    cases h with
    | number h hagain =>
      cases h
      exact hagain
  · intro h
    exact .number rfl h

theorem sameData_date_iff {millis again : Int64} :
    SameData types .instant (.date millis) (.date again) ↔ millis = again := by
  constructor
  · intro h
    cases h with
    | same => rfl
    | number h => cases h
    | instant h hagain =>
      have heq := Option.some.inj (h.trans hagain.symm)
      exact Int64.toInt_inj.mp heq
  · rintro rfl
    exact .same _ _

theorem sameData_optional_iff {inner : FieldType} {stored again : Bson} :
    SameData types (.optional inner) stored again ↔ SameData types inner stored again := by
  refine ⟨fun h => ?_, .optional⟩
  cases h with
  | same => exact .same _ _
  | number h hagain => exact .number h hagain
  | optional h => exact h

/-- Lists are the same data item by item, for sequences and for sets. -/
theorem sameData_array_iff {type inner : FieldType} (htype : type = .seq inner ∨ type = .set inner)
    {items others : List Bson} :
    SameData types type (.array items) (.array others) ↔
      List.Forall₂ (SameData types inner) items others := by
  rw [List.forall₂_iff_zip]
  constructor
  · intro h
    cases h with
    | same => exact List.forall₂_iff_zip.mp (List.forall₂_same.mpr fun item _ => .same inner item)
    | number h => cases h
    | seq hlength h | set hlength h =>
      obtain rfl : _ = inner := by simpa using htype
      exact ⟨hlength, h _ _⟩
    | _ => simp at htype
  · rintro ⟨hlength, h⟩
    rcases htype with rfl | rfl
    · exact .seq hlength fun _ _ => h
    · exact .set hlength fun _ _ => h

theorem sameData_record_iff {id : RecordId} {descriptor : RecordDescriptor} {d again : Document}
    (hdescriptor : describeNested (types id) = .ok descriptor) :
    SameData types (.record id) (.document d) (.document again) ↔
      ∀ field ∈ descriptor.fields,
        SameData types field.type (d.getOrNull field.key) (again.getOrNull field.key) := by
  refine ⟨fun h => ?_, .record hdescriptor⟩
  cases h with
  | same => exact fun _ _ => .same _ _
  | number h => cases h
  | record hother h =>
    cases Except.ok.inj (hdescriptor.symm.trans hother)
    exact h

theorem lossy_optional_iff {inner : FieldType} {stored : Bson} :
    Lossy types (.optional inner) stored ↔ Lossy types inner stored :=
  ⟨fun | .optional h => h, .optional⟩

theorem lossy_array_iff {type inner : FieldType} (htype : type = .seq inner ∨ type = .set inner)
    {items : List Bson} :
    Lossy types type (.array items) ↔ ∃ item ∈ items, Lossy types inner item := by
  constructor
  · intro h
    cases h with
    | seq hmem h | set hmem h =>
      obtain rfl : _ = inner := by simpa using htype
      exact ⟨_, hmem, h⟩
    | optional => simp at htype
  · rintro ⟨_, hmem, h⟩
    rcases htype with rfl | rfl
    · exact .seq hmem h
    · exact .set hmem h

theorem lossy_record_iff {id : RecordId} {descriptor : RecordDescriptor} {d : Document}
    (hdescriptor : describeNested (types id) = .ok descriptor) :
    Lossy types (.record id) (.document d) ↔
      ∃ field ∈ descriptor.fields, Lossy types field.type (d.getOrNull field.key) := by
  refine ⟨fun h => ?_, fun ⟨_, hmem, h⟩ => .record hdescriptor hmem h⟩
  cases h with
  | record hother hmem h =>
    cases Except.ok.inj (hdescriptor.symm.trans hother)
    exact ⟨_, hmem, h⟩

theorem lossy_integer_iff {n : Int64} :
    Lossy types .double (.int64 n) ↔ ¬ Double.Fits n.toInt :=
  ⟨fun | .integer h => h, .integer⟩

theorem lossy_date_iff {millis : Int64} :
    Lossy types .instant (.date millis) ↔
      millis.toInt < Instant.first.toMillis ∨ Instant.last.toMillis < millis.toInt :=
  ⟨fun | .date h => h, .date⟩

end Bson

/-- Milliseconds come back from an instant exactly if they are within its years. -/
theorem Instant.toMillis_ofMillis_iff {millis : ℤ} :
    (ofMillis millis).toMillis = millis ↔ first.toMillis ≤ millis ∧ millis ≤ last.toMillis := by
  have hfirst : first.toMillis = -8334601228800000 := by decide
  have hlast : last.toMillis = 8210266876799999 := by decide
  constructor
  · intro h
    by_contra hout
    unfold ofMillis at h
    split at h
    · omega
    · split at h <;> omega
  · rintro ⟨hlow, hhigh⟩
    exact toMillis_ofMillis (by omega) (by omega)

namespace Bson

variable {types : Schema}

/-- A value that is read is null if what it is read from is. -/
theorem Reads.isNull {type : FieldType} {stored : Bson} {value : Value}
    (h : Reads types type stored value) : value.isNull = stored.isNull := by
  induction h with
  | plain h => cases h <;> rfl
  | present _ _ ih => exact ih
  | _ => rfl

theorem ReadsPlain.exists_encodeValue {type : FieldType} {stored : Bson} {value : Value}
    (h : ReadsPlain type stored value) :
    ∃ again, encodeValue types TypeRule.standard (nestedDescriptor types) type value = .ok again ∧
      (SameData types type stored again ↔ ¬ Lossy types type stored) := by
  cases h with
  | narrowed n low high =>
    refine ⟨.int32 n.toInt32, by rw [encodeValue.eq_def]; rfl, ?_⟩
    refine iff_of_true (.number rfl ?_) (by rintro ⟨⟩)
    refine congrArg (fun m : ℤ => some (m : ℚ)) ?_
    rw [Int64.toInt_toInt32]
    exact Int.bmod_eq_of_le low (Int.lt_add_one_of_le high)
  | widened n =>
    refine ⟨.int64 n.toInt64, by rw [encodeValue.eq_def]; rfl, ?_⟩
    refine iff_of_true (.number rfl ?_) (by rintro ⟨⟩)
    exact congrArg (fun m : ℤ => some (m : ℚ)) (Int32.toInt_toInt64 n)
  | doubleOfInt32 n =>
    refine ⟨.double (Double.ofInt n.toInt), by rw [encodeValue.eq_def]; rfl, ?_⟩
    refine iff_of_true (.number rfl ?_) (by rintro ⟨⟩)
    have hlow := n.le_toInt
    have hhigh := n.toInt_lt
    exact (Double.toRat?_ofInt_iff (by omega)).mpr (Double.fits_of_natAbs_lt (by omega))
  | doubleOfInt64 n =>
    refine ⟨.double (Double.ofInt n.toInt), by rw [encodeValue.eq_def]; rfl, ?_⟩
    rw [sameData_integer_iff, lossy_integer_iff, not_not]
    have hlow := n.le_toInt
    have hhigh := n.toInt_lt
    exact Double.toRat?_ofInt_iff (by omega)
  | instant millis =>
    refine ⟨_, encodeValue_instant _, ?_⟩
    rw [sameData_date_iff, lossy_date_iff, not_or, not_lt, not_lt,
      ← Instant.toMillis_ofMillis_iff, ← Int64.toInt_inj, Instant.toInt_ofInt_toMillis, eq_comm]
  | instantText h =>
    refine ⟨_, encodeValue_instant _, ?_⟩
    refine iff_of_true (.instant (congrArg (Option.map Instant.toMillis) h) ?_)
      (by rintro ⟨⟩)
    exact congrArg some (Instant.toInt_ofInt_toMillis _)
  | timestamp h =>
    refine ⟨_, by rw [encodeValue_timestamp, Timestamp.toMillis_ofMillis h]; rfl, ?_⟩
    exact iff_of_true (.same _ _) (by rintro ⟨⟩)
  | @timestampText text t h hvalid =>
    refine ⟨.date (Int64.ofInt t.toMillis), ?_, ?_⟩
    · rw [encodeValue_timestamp, Timestamp.toMillis_ofInstant hvalid]
      rfl
    · refine iff_of_true (.timestamp (congrArg (Option.map Instant.toMillis) h) ?_)
        (by rintro ⟨⟩)
      exact congrArg some (Instant.toInt_ofInt_toMillis _)
  | _ =>
    refine ⟨_, by rw [encodeValue.eq_def]; rfl, ?_⟩
    exact iff_of_true (.same _ _) (by rintro ⟨⟩)

/-! ## 3. Values with parts -/

/-- If each pair of two lists has an image, there is a list of images. -/
theorem exists_images {α β γ : Type} {Image : α → β → γ → Prop} {as : List α} {bs : List β}
    (hlength : as.length = bs.length) (h : ∀ a b, (a, b) ∈ as.zip bs → ∃ c, Image a b c) :
    ∃ cs, List.Forall₂ (fun (pair : α × β) c => Image pair.1 pair.2 c) (as.zip bs) cs := by
  induction as generalizing bs with
  | nil => exact ⟨[], .nil⟩
  | cons a as ih =>
    cases bs with
    | nil => cases hlength
    | cons b bs =>
      obtain ⟨c, hc⟩ := h a b List.mem_cons_self
      obtain ⟨cs, hcs⟩ := ih (Nat.succ.inj hlength) fun a b hmem =>
        h a b (List.mem_cons_of_mem _ hmem)
      exact ⟨c :: cs, .cons hc hcs⟩

/-- What holds of each pair if something holds of its first part, holds of all pairs if that holds
of all first parts. -/
theorem forall₂_iff_forall_mem {α γ : Type} {R : α → γ → Prop} {P : α → Prop} {as : List α}
    {cs : List γ} (h : List.Forall₂ (fun a c => R a c ↔ P a) as cs) :
    List.Forall₂ R as cs ↔ ∀ a ∈ as, P a := by
  induction h with
  | nil => exact iff_of_true .nil fun _ hmem => absurd hmem List.not_mem_nil
  | cons hfirst _ ih => rw [List.forall₂_cons, List.forall_mem_cons, hfirst, ih]

/-- Items that are read one by one are written one by one. -/
theorem exists_encodeItems {inner : FieldType} {items : List Bson} {values : List Value}
    (hlength : items.length = values.length)
    (h : ∀ item value, (item, value) ∈ items.zip values → ∃ again,
      encodeValue types TypeRule.standard (nestedDescriptor types) inner value = .ok again ∧
        (SameData types inner item again ↔ ¬ Lossy types inner item)) :
    ∃ others,
      encodeItems types TypeRule.standard (nestedDescriptor types) inner values = .ok others ∧
        (List.Forall₂ (SameData types inner) items others ↔
          ∀ item ∈ items, ¬ Lossy types inner item) := by
  obtain ⟨others, hothers⟩ := exists_images hlength h
  refine ⟨others, encodeItems_eq_ok_iff.mpr (forall₂_of_zip_right hlength ?_),
    forall₂_iff_forall_mem (forall₂_of_zip_left hlength ?_)⟩
  · exact hothers.imp fun _ _ hitem => hitem.1
  · exact hothers.imp fun _ _ hitem => hitem.2

theorem exists_encodeArray {type inner : FieldType} (htype : type = .seq inner ∨ type = .set inner)
    {items : List Bson} {values : List Value} (hlength : items.length = values.length)
    (h : ∀ item value, (item, value) ∈ items.zip values → ∃ again,
      encodeValue types TypeRule.standard (nestedDescriptor types) inner value = .ok again ∧
        (SameData types inner item again ↔ ¬ Lossy types inner item)) :
    ∃ again,
      encodeValue types TypeRule.standard (nestedDescriptor types) type (.seq values) = .ok again ∧
        (SameData types type (.array items) again ↔ ¬ Lossy types type (.array items)) := by
  obtain ⟨others, hencode, hsame⟩ := exists_encodeItems hlength h
  have hseq := encodeValue_seq_eq_ok_iff.mpr ⟨others, hencode, rfl⟩
  refine ⟨.array others, ?_, ?_⟩
  · rcases htype with rfl | rfl
    · exact hseq
    · exact (encodeValue_set _ _).trans hseq
  · rw [sameData_array_iff htype, lossy_array_iff htype, hsame]
    simp only [not_exists, not_and]

/-- The document of fields that are read one by one has each of them under its key. -/
theorem exists_encodeFields {record : RecordType} {descriptor : RecordDescriptor}
    (hfollows : descriptor.Follows record) {d : Document} {values : List Value}
    (hlength : descriptor.fields.length = values.length)
    (h : ∀ field value, (field, value) ∈ descriptor.fields.zip values → ∃ again,
      encodeValue types TypeRule.standard (nestedDescriptor types) field.type value = .ok again ∧
        (SameData types field.type (d.getOrNull field.key) again ↔
          ¬ Lossy types field.type (d.getOrNull field.key))) :
    ∃ again,
      encodeFields types TypeRule.standard (nestedDescriptor types) descriptor values = .ok again ∧
      ∀ field ∈ descriptor.fields,
        (SameData types field.type (d.getOrNull field.key) (again.getOrNull field.key) ↔
          ¬ Lossy types field.type (d.getOrNull field.key)) := by
  have hentry : ∀ field value, (field, value) ∈ descriptor.fields.zip values →
      ∃ entry : String × Bson, entry.1 = field.key ∧
        encodeValue types TypeRule.standard (nestedDescriptor types) field.type value =
          .ok entry.2 ∧
        (SameData types field.type (d.getOrNull field.key) entry.2 ↔
          ¬ Lossy types field.type (d.getOrNull field.key)) := by
    intro field value hmem
    obtain ⟨again, hencode, hsame⟩ := h field value hmem
    exact ⟨(field.key, again), rfl, hencode, hsame⟩
  obtain ⟨again, hagain⟩ := exists_images hlength hentry
  have hencode := encodeFields_of_entries hlength.symm
    (hagain.imp fun _ _ hentry => ⟨hentry.1, hentry.2.1⟩)
  have hfields : List.Forall₂ (fun (field : FieldDescriptor) (entry : String × Bson) =>
      entry.1 = field.key ∧ (SameData types field.type (d.getOrNull field.key) entry.2 ↔
        ¬ Lossy types field.type (d.getOrNull field.key))) descriptor.fields again :=
    forall₂_of_zip_left hlength (hagain.imp fun _ _ hentry => ⟨hentry.1, hentry.2.2⟩)
  have hkeys : Document.keys again = descriptor.keys := by
    rw [Document.keys, RecordDescriptor.keys, eq_comm, ← List.forall₂_eq_eq_eq,
      List.forall₂_map_left_iff, List.forall₂_map_right_iff]
    exact hfields.imp fun _ _ hentry => hentry.1.symm
  refine ⟨again, hencode, fun field hfield => ?_⟩
  obtain ⟨hcount, hall⟩ := List.forall₂_iff_zip.mp hfields
  obtain ⟨entry, hmem⟩ := exists_mem_zip_left hcount hfield
  obtain ⟨hkey, hsame⟩ := hall hmem
  have hget : Document.getOrNull again field.key = entry.2 := by
    rw [Document.getOrNull, ← hkey, Document.get?_of_mem (hkeys ▸ hfollows.nodup)
      (List.of_mem_zip hmem).2, Option.getD_some]
  rwa [hget]

theorem not_lossy_null (type : FieldType) : ¬ Lossy types type .null := by
  induction type with
  | optional inner ih =>
    rw [lossy_optional_iff]
    exact ih
  | _ => rintro ⟨⟩

theorem Reads.exists_encodeValue {type : FieldType} {stored : Bson} {value : Value}
    (h : Reads types type stored value) :
    ∃ again, encodeValue types TypeRule.standard (nestedDescriptor types) type value = .ok again ∧
      (SameData types type stored again ↔ ¬ Lossy types type stored) := by
  induction h with
  | plain h => exact h.exists_encodeValue
  | absent inner =>
    exact ⟨.null, encodeValue_optional_null inner,
      iff_of_true (.same _ _) (not_lossy_null _)⟩
  | present hstored h ih =>
    obtain ⟨again, hencode, hsame⟩ := ih
    refine ⟨again, (encodeValue_optional (h.isNull.trans hstored)).trans hencode, ?_⟩
    rw [sameData_optional_iff, lossy_optional_iff, hsame]
  | seq hlength _ ih => exact exists_encodeArray (.inl rfl) hlength ih
  | set hlength _ ih => exact exists_encodeArray (.inr rfl) hlength ih
  | record hdescriptor hlength _ ih =>
    obtain ⟨again, hencode, hsame⟩ :=
      exists_encodeFields (.of_describeNested hdescriptor) hlength ih
    refine ⟨.document again, encodeValue_record_eq_ok_iff.mpr
      ⟨_, again, hdescriptor, hencode, rfl⟩, ?_⟩
    rw [sameData_record_iff hdescriptor, lossy_record_iff hdescriptor]
    simp only [not_exists, not_and]
    exact forall₂_congr hsame

end Bson

/-! ## 4. Records -/

namespace Converter

variable {types : Schema} {c : Converter} {id : RecordId} {d : Document} {values : List Value}

/-- **Rewriting keeps the data, but for two losses.**  Under the standard rules, a document that is
read can be written again, and under each declared key there are then the same data as before if and
only if there was nothing that the field's type has no room for.  The values that are written are
those that a record keeps, if there are no sets in it. -/
theorem sameData_iff_not_lossy (hrules : c.rules = TypeRule.standard)
    (h : c.decodeValues types id d = .ok values) :
    ∃ descriptor again, c.describe (types id) = .ok descriptor ∧
      c.encode types id values = .ok again ∧
      (∀ field ∈ descriptor.fields,
        (Bson.SameData types field.type (d.getOrNull field.key) (again.getOrNull field.key) ↔
          ¬ Bson.Lossy types field.type (d.getOrNull field.key))) ∧
      ((FieldType.record id).SetFree types → c.decode types id d = .ok values) := by
  obtain ⟨descriptor, hdescriptor, hlength, hread⟩ := (decodeValues_eq_ok_iff hrules).mp h
  have hfollows := RecordDescriptor.Follows.of_describe hdescriptor
  obtain ⟨again, hencode, hsame⟩ := Bson.exists_encodeFields hfollows hlength
    fun field value hmem => (hread field value hmem).exists_encodeValue
  rw [← hrules] at hencode
  exact ⟨descriptor, again, hdescriptor, bind_eq_ok_iff.mpr ⟨descriptor, hdescriptor, hencode⟩,
    hsame, fun hfree => decode_of_setFree hrules hfree h⟩

namespace Example

/-- A gauge, with the gauges that it is read from. -/
def gauges : Schema := fun _ =>
  ⟨"Gauge", [⟨"serial", .int64, none, true⟩, ⟨"level", .double, none, false⟩,
    ⟨"read_at", .optional .instant, none, false⟩, ⟨"inner", .seq (.record 0), none, false⟩], true⟩

/-- A gauge in other widths than declared, with a key that is not declared, and a gauge inside that
was never read. -/
def gaugeDocument : Document :=
  [("_id", .int32 7), ("level", .int64 3), ("unit", .string "m"), ("readAt", .date 1500),
    ("inner", .array [.document [("serial", .int64 8), ("level", .int32 (-4)),
      ("inner", .array [])]])]

def gaugeValues : List Value :=
  [.int64 7, .double (Double.ofInt 3),
    .instant ⟨1, 500000000, by decide, by decide, by decide, by decide⟩,
    .seq [.record [.int64 8, .double (Double.ofInt (-4)), .null, .seq []]]]

theorem setFree_gauge : (FieldType.record 0).SetFree gauges :=
  FieldType.setFree_of_hasSet
    (fun _ => show ∀ field ∈ (gauges 0).fields, field.type.hasSet = false by decide) rfl

theorem decodeValues_gauge :
    ({} : Converter).decodeValues gauges 0 gaugeDocument = .ok gaugeValues := by
  have hinner : Bson.Reads gauges (.record 0) (.document [("serial", .int64 8),
      ("level", .int32 (-4)), ("inner", .array [])])
      (.record [.int64 8, .double (Double.ofInt (-4)), .null, .seq []]) :=
    .ofFields rfl (.cons (.plain (.int64 8)) (.cons (.plain (.doubleOfInt32 (-4)))
      (.cons (.absent _) (.cons (Bson.Reads.ofItems .nil).1 .nil))))
  have hread : Bson.Reads gauges (.optional .instant) (.date 1500)
      (.instant ⟨1, 500000000, by decide, by decide, by decide, by decide⟩) :=
    .present rfl (.plain (.instant 1500))
  exact decodeValues_of_reads rfl rfl (.cons (.plain (.widened 7))
    (.cons (.plain (.doubleOfInt64 3))
      (.cons hread (.cons (Bson.Reads.ofItems (.cons hinner .nil)).1 .nil))))

theorem sameData_gauge :
    ({} : Converter).rules = TypeRule.standard ∧
      ({} : Converter).decodeValues gauges 0 gaugeDocument = .ok gaugeValues ∧
      ({} : Converter).decode gauges 0 gaugeDocument = .ok gaugeValues ∧
      ∃ descriptor again, ({} : Converter).describe (gauges 0) = .ok descriptor ∧
        ({} : Converter).encode gauges 0 gaugeValues = .ok again ∧
        ∀ field ∈ descriptor.fields, Bson.SameData gauges field.type
          (gaugeDocument.getOrNull field.key) (again.getOrNull field.key) := by
  have hinner : ¬ Bson.Lossy gauges (.record 0) (.document [("serial", .int64 8),
      ("level", .int32 (-4)), ("inner", .array [])]) := by
    rw [Bson.lossy_record_iff rfl]
    rintro ⟨field, hmem, h⟩
    fin_cases hmem
    · cases h
    · cases h
    · exact Bson.not_lossy_null _ h
    · obtain ⟨item, hmem, -⟩ := (Bson.lossy_array_iff (.inl rfl)).mp h
      cases hmem
  obtain ⟨descriptor, again, hdescriptor, hencode, hsame, hkept⟩ :=
    sameData_iff_not_lossy rfl decodeValues_gauge
  refine ⟨rfl, decodeValues_gauge, hkept setFree_gauge, descriptor, again, hdescriptor, hencode,
    fun field hmem => ?_⟩
  rw [hsame field hmem]
  cases hdescriptor
  fin_cases hmem
  · rintro ⟨⟩
  · exact fun h => Bson.lossy_integer_iff.mp h (Double.fits_of_natAbs_lt (by decide))
  · exact fun h => absurd (Bson.lossy_date_iff.mp (Bson.lossy_optional_iff.mp h)) (by decide)
  · intro h
    obtain ⟨item, hmem, hitem⟩ := (Bson.lossy_array_iff (.inl rfl)).mp h
    rw [List.mem_singleton] at hmem
    exact hinner (hmem ▸ hitem)

/-- A gauge that was read once. -/
def plainGauge (level millis : Int64) : Document :=
  [("_id", .int64 1), ("level", .int64 level), ("readAt", .date millis), ("inner", .array [])]

def plainGaugeValues (level : Double) (readAt : Instant) : List Value :=
  [.int64 1, .double level, .instant readAt, .seq []]

theorem encode_plainGauge (level : Double) (readAt : Instant) :
    ({} : Converter).encode gauges 0 (plainGaugeValues level readAt) =
      .ok [("_id", .int64 1), ("level", .double level),
        ("readAt", .date (Int64.ofInt readAt.toMillis)), ("inner", .array [])] := by
  have hinner : encodeValue gauges TypeRule.standard (nestedDescriptor gauges) (.seq (.record 0))
      (.seq []) = .ok (.array []) :=
    encodeValue_seq_eq_ok_iff.mpr ⟨[], encodeItems_eq_ok_iff.mpr .nil, rfl⟩
  exact encode_of_entries rfl rfl (.cons ⟨rfl, by rw [encodeValue.eq_def]; rfl⟩
    (.cons ⟨rfl, by rw [encodeValue.eq_def]; rfl⟩
      (.cons ⟨rfl, (encodeValue_optional rfl).trans (encodeValue_instant readAt)⟩
        (.cons ⟨rfl, hinner⟩ .nil))))

theorem decode_plainGauge (level millis : Int64) :
    ({} : Converter).decode gauges 0 (plainGauge level millis) =
      .ok (plainGaugeValues (Double.ofInt level.toInt) (Instant.ofMillis millis.toInt)) :=
  decode_of_setFree rfl setFree_gauge (decodeValues_of_reads rfl rfl
    (.cons (.plain (.int64 1)) (.cons (.plain (.doubleOfInt64 level))
      (.cons (.present rfl (.plain (.instant millis)))
        (.cons (Bson.Reads.ofItems .nil).1 .nil)))))

/-- A level that no double is, and a date after the last instant: the gauge is read and written
without an error, and both are others afterwards. -/
theorem not_sameData_far :
    let d := plainGauge 9007199254740993 9223372036854775807
    ∃ values again, ({} : Converter).decode gauges 0 d = .ok values ∧
      ({} : Converter).encode gauges 0 values = .ok again ∧
      (d.getOrNull "level").exactNumber? = some 9007199254740993 ∧
      (again.getOrNull "level").exactNumber? = some 9007199254740992 ∧
      ¬ Bson.SameData gauges .double (d.getOrNull "level") (again.getOrNull "level") ∧
      (d.getOrNull "readAt").millis? = some 9223372036854775807 ∧
      (again.getOrNull "readAt").millis? = some 8210266876799999 ∧
      ¬ Bson.SameData gauges (.optional .instant) (d.getOrNull "readAt")
        (again.getOrNull "readAt") := by
  have hlevel : (Double.ofInt 9007199254740993).toRat? = some 9007199254740992 := by
    decide +kernel
  refine ⟨_, _, decode_plainGauge _ _, encode_plainGauge _ _, by decide, hlevel, ?_, by decide,
    by decide, ?_⟩
  · show ¬ Bson.SameData gauges .double (.int64 9007199254740993)
      (.double (Double.ofInt 9007199254740993))
    rw [Bson.sameData_integer_iff, hlevel]
    decide
  · show ¬ Bson.SameData gauges (.optional .instant) (.date 9223372036854775807)
      (.date (Int64.ofInt Instant.last.toMillis))
    rw [Bson.sameData_optional_iff, Bson.sameData_date_iff]
    decide

end Example

end Converter

end Dossier
