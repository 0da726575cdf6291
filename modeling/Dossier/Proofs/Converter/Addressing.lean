/-
# Keys as paths

A converter writes and reads the keys of a document as they are.  A query and an update take a key
for a path, which they split at its points, and an update refuses the key by which the store tells
documents apart, whichever field it belongs to.

So a key without points is where the two agree.  The path leads to what was encoded for the field,
and setting it changes what this field decodes from and nothing else, unless the store refuses the
key (`Converter.addressable`).
-/
import Dossier.Proofs.Converter.Layout
import Dossier.Proofs.Store.Calls
import Dossier.Proofs.Store.Fields

namespace Dossier

/-- The update of one field. -/
def setField (key : String) (v : Bson) : Document := [("$set", .document [(key, v)])]

namespace Store

theorem applyUpdate_setField {key : String} (hkey : key ≠ storeIdentityKey)
    (hplain : '.' ∉ key.toList) (v : Bson) (d : Document) :
    applyUpdate (setField key v) d = .ok (d.insert key v) :=
  applyUpdate_set (List.forall_mem_singleton.mpr ⟨hkey, hplain⟩) d

theorem applyUpdate_setField_identity (v : Bson) (d : Document) :
    applyUpdate (setField storeIdentityKey v) d = .error .identityUpdate := rfl

end Store

theorem Document.getOrNull_insert (d : Document) (key : String) (v : Bson) (other : String) :
    (d.insert key v).getOrNull other = if other = key then v else d.getOrNull other := by
  unfold getOrNull
  by_cases h : other = key
  · rw [if_pos h, h, get?_insert_self, Option.getD_some]
  · rw [if_neg h, get?_insert_of_ne d v (Ne.symm h)]

namespace Converter

variable {c : Converter} {types : Schema} {id : RecordId} {descriptor : RecordDescriptor}

/-- A document is decoded exactly if the value of each field is. -/
theorem decodeValues_of_describe_iff (hdescribe : c.describe (types id) = .ok descriptor)
    {d : Document} {values : List Value} :
    c.decodeValues types id d = .ok values ↔
      List.Forall₂ (fun field value => decodeValue types c.rules (nestedDescriptor types) field.type
        (d.getOrNull field.key) = .ok value) descriptor.fields values := by
  rw [← decodeFields_eq_ok_iff, decodeValues, hdescribe]
  rfl

/-- In the second document the field has another value.  All other fields have their own, and the
document decodes exactly if the fields do, this one from the new value. -/
structure SetsField (c : Converter) (types : Schema) (id : RecordId)
    (descriptor : RecordDescriptor) (i : Nat) (field : FieldDescriptor) (v : Bson)
    (d d' : Document) : Prop where
  own : d'.get? field.key = some v
  others : ∀ (j : Nat) other, descriptor.fields[j]? = some other → j ≠ i →
    d'.get? other.key = d.get? other.key
  decoded : ∀ values, c.decodeValues types id d' = .ok values ↔
    List.Forall₂ (fun other value => decodeValue types c.rules (nestedDescriptor types) other.type
      (if other.key = field.key then v else d.getOrNull other.key) = .ok value)
      descriptor.fields values

theorem setsField_insert (hdescribe : c.describe (types id) = .ok descriptor) {i : Nat}
    {field : FieldDescriptor} (hfield : descriptor.fields[i]? = some field) (v : Bson)
    (d : Document) : c.SetsField types id descriptor i field v d (d.insert field.key v) where
  own := d.get?_insert_self field.key v
  others j other hother hne :=
    d.get?_insert_of_ne v fun hkey => hne
      (descriptor.place_eq (RecordDescriptor.Follows.of_describe hdescribe).nodup hother hfield
        hkey.symm)
  decoded values := by
    rw [decodeValues_of_describe_iff hdescribe]
    simp only [Document.getOrNull_insert]

/-- **A key without points is a path to its field.**  It leads to what the field's value was encoded
as.  An update that sets it is refused if it is the identity of the store, and otherwise gives the
field another value and leaves all other fields as they are. -/
theorem addressable (hdescribe : c.describe (types id) = .ok descriptor) {values : List Value}
    {d : Document} (hencode : c.encode types id values = .ok d) {i : Nat} {field : FieldDescriptor}
    (hfield : descriptor.fields[i]? = some field) (hplain : '.' ∉ field.key.toList) :
    (∃ value stored, values[i]? = some value ∧
      encodeValue types c.rules (nestedDescriptor types) field.type value = .ok stored ∧
      Path.resolve (Path.segments field.key) d = some stored) ∧
    ∀ (s : Store) (collection : String) (query : Document) (before after : List Document),
      s.documents collection = before ++ d :: after → Query.First query before d → ∀ v,
        (field.key = storeIdentityKey →
          s.update collection query (setField field.key v) =
            .error (.invalidDocument .identityUpdate)) ∧
        (field.key ≠ storeIdentityKey → ∃ d',
          s.update collection query (setField field.key v) =
            .ok (true, s.put collection (before ++ d' :: after)) ∧
          c.SetsField types id descriptor i field v d d') := by
  obtain ⟨-, hfields⟩ := stored_of_encode hdescribe hencode
  obtain ⟨value, stored, hvalue, hstored, hget⟩ := hfields hfield
  refine ⟨⟨value, stored, hvalue, hstored, ?_⟩, ?_⟩
  · rw [Path.segments_eq_singleton_iff.mpr ⟨rfl, hplain⟩]
    exact hget
  · intro s collection query before after hds hfirst v
    rw [Store.update_eq_of_first hds hfirst]
    constructor
    · intro hkey
      rw [hkey, Store.applyUpdate_setField_identity]
    · intro hkey
      refine ⟨d.insert field.key v, ?_, setsField_insert hdescribe hfield v d⟩
      rw [Store.applyUpdate_setField hkey hplain]

namespace Example

/-- Memos with a title, a text, and a reference that is stored under the identity key of the
store. -/
def memo : Schema := fun _ =>
  ⟨"Memo", [⟨"title", .string, none, true⟩, ⟨"body_text", .string, none, false⟩,
    ⟨"reference", .string, some "_id", false⟩], true⟩

/-- The title is the identity, under a key of its own. -/
def byTitle : Converter := { identityKey := "key" }

def memoDescriptor : RecordDescriptor :=
  ⟨"Memo", [⟨"title", .string, "key"⟩, ⟨"body_text", .string, "bodyText"⟩,
    ⟨"reference", .string, "_id"⟩], some 0⟩

def memoDocument : Document :=
  [("key", .string "a"), ("bodyText", .string "b"), ("_id", .string "c")]

def memos : Store := Store.empty.put "memos" [memoDocument]

theorem describe_memo : byTitle.describe (memo 0) = .ok memoDescriptor := rfl

theorem encode_memo :
    byTitle.encode memo 0 [.string "a", .string "b", .string "c"] = .ok memoDocument :=
  encode_of_entries describe_memo rfl (.cons ⟨rfl, encodeValue_string "a"⟩
    (.cons ⟨rfl, encodeValue_string "b"⟩ (.cons ⟨rfl, encodeValue_string "c"⟩ .nil)))

/-- The first memo is found by the query that asks for nothing. -/
theorem first_memo : Query.First [] [] memoDocument :=
  ⟨fun _ h => absurd h List.not_mem_nil, by rw [Query.holds]⟩

theorem addressable_memo :
    byTitle.describe (memo 0) = .ok memoDescriptor ∧
    byTitle.encode memo 0 [.string "a", .string "b", .string "c"] = .ok memoDocument ∧
    Path.resolve (Path.segments "bodyText") memoDocument = some (.string "b") ∧
    ∃ d', memos.update "memos" [] (setField "bodyText" (.string "d")) =
        .ok (true, memos.put "memos" [d']) ∧
      byTitle.decodeValues memo 0 d' = .ok [.string "a", .string "d", .string "c"] := by
  have hplain : '.' ∉ "bodyText".toList := by decide
  obtain ⟨⟨value, stored, hvalue, hstored, hresolve⟩, hupdate⟩ :=
    addressable (i := 1) describe_memo encode_memo rfl hplain
  cases hvalue
  cases (encodeValue_string "b").symm.trans hstored
  obtain ⟨-, hset⟩ := hupdate memos "memos" [] [] [] rfl first_memo (.string "d")
  obtain ⟨d', hd', hsets⟩ := hset (by decide)
  have hread (text : String) : decodeValue memo byTitle.rules (nestedDescriptor memo) .string
      (.string text) = .ok (.string text) := by
    rw [decodeValue.eq_def]
    rfl
  exact ⟨describe_memo, encode_memo, hresolve, d', hd', (hsets.decoded _).mpr
    (.cons (hread "a") (.cons (hread "d") (.cons (hread "c") .nil)))⟩

/-- The store refuses to set a field that is stored under its identity key, though it is not the
identity of the record. -/
theorem refused_memo :
    byTitle.describe (memo 0) = .ok memoDescriptor ∧
    byTitle.encode memo 0 [.string "a", .string "b", .string "c"] = .ok memoDocument ∧
    memoDescriptor.identity = some 0 ∧
    memoDescriptor.fields[2]? = some ⟨"reference", .string, "_id"⟩ ∧
    memos.documents "memos" = [memoDocument] ∧
    ∀ v, memos.update "memos" [] (setField "_id" v) =
      .error (.invalidDocument .identityUpdate) := by
  refine ⟨describe_memo, encode_memo, rfl, rfl, rfl, fun v => ?_⟩
  have hmemos : memos.documents "memos" = [] ++ memoDocument :: [] := rfl
  rw [Store.update_eq_of_first hmemos first_memo]
  rfl

end Example

end Converter

end Dossier
