/-
# Stored values and documents

`Bson` is the value of a stored field, with one constructor for each element type, and a
`Document` is a list of keys and values in the order in which the keys were first given.

A document is read through `get?` and changed through `insert`, which keeps the place of a key that
is there already; the laws beside it say what it does to `get?` and to the list of keys.  A document
that was built by `insert` alone holds each key once: `DistinctKeys`, kept by `distinctKeys_insert`.
-/
import Dossier.Bson.Decimal
import Dossier.Double.Basic

namespace Dossier

/-- A stored value. -/
inductive Bson where
  | null
  | boolean (value : Bool)
  | int32 (value : Int32)
  | int64 (value : Int64)
  | double (value : Double)
  | string (value : String)
  /-- Milliseconds since 1970. -/
  | date (millis : Int64)
  | array (items : List Bson)
  | document (fields : List (String × Bson))
  | objectId (octets : List UInt8)
  | binary (subtype : UInt8) (octets : List UInt8)
  | regex (pattern options : String)
  | timestamp (time increment : UInt32)
  | decimal (value : Decimal)
  | code (source : String)
  /-- A program with the values of its free variables. -/
  | codeWithScope (source : String) (scope : List (String × Bson))
  | symbol (name : String)
  /-- A collection and the identity of a document in it. -/
  | pointer (collection : String) (octets : List UInt8)
  | undefined
  | minKey
  | maxKey
deriving Inhabited

/-- Keys and values, in the order in which the keys were first given. -/
abbrev Document := List (String × Bson)

namespace Document

/-- The value of a key. -/
def get? : Document → String → Option Bson
  | [], _ => none
  | (k, v) :: rest, key => if k = key then some v else get? rest key

def keys (d : Document) : List String := d.map Prod.fst

/-- Sets the value of a key: in place if the document has the key, else at the end. -/
def insert : Document → String → Bson → Document
  | [], key, value => [(key, value)]
  | (k, v) :: rest, key, value =>
    if k = key then (key, value) :: rest else (k, v) :: insert rest key value

/-- The document that a list of settings leaves, a later one replacing an earlier one. -/
def ofList (settings : List (String × Bson)) : Document :=
  settings.foldl (fun d (k, v) => d.insert k v) []

/-- Each key stands once. -/
def DistinctKeys (d : Document) : Prop := d.keys.Nodup

/-! ## 1. The value of a key -/

@[simp] theorem get?_nil (key : String) : get? [] key = none := rfl

theorem get?_cons (k : String) (v : Bson) (rest : Document) (key : String) :
    get? ((k, v) :: rest) key = if k = key then some v else get? rest key := rfl

@[simp] theorem get?_insert_self (d : Document) (key : String) (value : Bson) :
    (d.insert key value).get? key = some value := by
  induction d with
  | nil => simp [insert, get?]
  | cons entry rest ih =>
    obtain ⟨k, v⟩ := entry
    by_cases h : k = key <;> simp [insert, get?, h, ih]

theorem get?_insert_of_ne (d : Document) {key other : String} (value : Bson) (h : key ≠ other) :
    (d.insert key value).get? other = d.get? other := by
  induction d with
  | nil => simp [insert, get?, h]
  | cons entry rest ih =>
    obtain ⟨k, v⟩ := entry
    by_cases hk : k = key
    · subst hk
      simp [insert, get?, h]
    · rw [insert, if_neg hk, get?_cons, get?_cons, ih]

theorem mem_keys_iff_get? (d : Document) (key : String) :
    key ∈ d.keys ↔ (d.get? key).isSome = true := by
  induction d with
  | nil => simp [keys]
  | cons entry rest ih =>
    obtain ⟨k, v⟩ := entry
    have hkeys : keys ((k, v) :: rest) = k :: keys rest := rfl
    by_cases hk : k = key
    · rw [hkeys, get?_cons, if_pos hk, hk]
      simp
    · rw [hkeys, get?_cons, if_neg hk, List.mem_cons, ← ih]
      simp [Ne.symm hk]

/-! ## 2. The keys -/

theorem keys_insert (d : Document) (key : String) (value : Bson) :
    (d.insert key value).keys = if key ∈ d.keys then d.keys else d.keys ++ [key] := by
  induction d with
  | nil => simp [insert, keys]
  | cons entry rest ih =>
    obtain ⟨k, v⟩ := entry
    have hkeys : keys ((k, v) :: rest) = k :: keys rest := rfl
    by_cases hk : k = key
    · subst hk
      simp [insert, keys]
    · have hins : insert ((k, v) :: rest) key value = (k, v) :: insert rest key value := by
        simp [insert, hk]
      have hkeys' : keys ((k, v) :: insert rest key value) = k :: keys (insert rest key value) :=
        rfl
      rw [hins, hkeys', ih, hkeys]
      by_cases hm : key ∈ keys rest <;> simp [hm, Ne.symm hk]

theorem distinctKeys_insert {d : Document} (h : d.DistinctKeys) (key : String) (value : Bson) :
    (d.insert key value).DistinctKeys := by
  unfold DistinctKeys at *
  rw [keys_insert]
  split
  · exact h
  · rename_i hk
    rw [List.nodup_append]
    refine ⟨h, by simp, ?_⟩
    intro a ha b hb hab
    rw [List.mem_singleton] at hb
    exact hk (hb ▸ hab ▸ ha)

/-- A value that a document holds is smaller than the document. -/
theorem sizeOf_lt_of_get? {d : Document} {key : String} {v : Bson} (h : d.get? key = some v) :
    sizeOf v < sizeOf d := by
  induction d with
  | nil => simp at h
  | cons entry rest ih =>
    obtain ⟨k, w⟩ := entry
    rw [get?_cons] at h
    by_cases hk : k = key
    · rw [if_pos hk] at h
      cases h
      simp only [List.cons.sizeOf_spec, Prod.mk.sizeOf_spec]
      omega
    · rw [if_neg hk] at h
      have := ih h
      simp only [List.cons.sizeOf_spec]
      omega

/-- A document inside a document is smaller. -/
theorem sizeOf_lt_of_get?_document {d inner : Document} {key : String}
    (h : d.get? key = some (.document inner)) : sizeOf inner < sizeOf d := by
  have := sizeOf_lt_of_get? h
  simp only [Bson.document.sizeOf_spec] at this
  omega

end Document

namespace Bson

/-- The document that a value is. -/
def asDocument? : Bson → Option Document
  | .document fields => some fields
  | _ => none

/-- The text that a value is. -/
def asString? : Bson → Option String
  | .string s => some s
  | _ => none

def isNull : Bson → Bool
  | .null => true
  | _ => false

/-- The name of a value's element type. -/
def elementType : Bson → String
  | .null => "Null"
  | .boolean _ => "Boolean"
  | .int32 _ => "Int32"
  | .int64 _ => "Int64"
  | .double _ => "Double"
  | .string _ => "String"
  | .date _ => "DateTime"
  | .array _ => "Array"
  | .document _ => "EmbeddedDocument"
  | .objectId _ => "ObjectId"
  | .binary _ _ => "Binary"
  | .regex _ _ => "RegularExpression"
  | .timestamp _ _ => "Timestamp"
  | .decimal _ => "Decimal128"
  | .code _ => "JavaScriptCode"
  | .codeWithScope _ _ => "JavaScriptCodeWithScope"
  | .symbol _ => "Symbol"
  | .pointer _ _ => "DbPointer"
  | .undefined => "Undefined"
  | .minKey => "MinKey"
  | .maxKey => "MaxKey"

end Bson

end Dossier
