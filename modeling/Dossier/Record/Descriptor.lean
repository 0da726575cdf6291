/-
# Descriptors

A descriptor says under which key each field of a record is stored, and which field identifies
the record.  A `DescriptorCache` keeps the first descriptor that was built for a record type:
`get?_insertIfAbsent` says that what is there is never replaced.
-/
import Dossier.Record.Schema

namespace Dossier

/-- A field and the key under which it is stored. -/
structure FieldDescriptor where
  name : String
  type : FieldType
  key : String
deriving DecidableEq, Inhabited

/-- The fields of a record, with their keys. -/
structure RecordDescriptor where
  typeName : String
  fields : List FieldDescriptor
  /-- The place of the identity; a nested record has none. -/
  identity : Option Nat
deriving DecidableEq, Inhabited

namespace RecordDescriptor

/-- The field that identifies the record. -/
def identityField (d : RecordDescriptor) : Option FieldDescriptor :=
  d.identity.bind fun place => d.fields[place]?

/-- The field of a name. -/
def field? (d : RecordDescriptor) (name : String) : Option FieldDescriptor :=
  d.fields.find? fun field => field.name = name

def keys (d : RecordDescriptor) : List String := d.fields.map FieldDescriptor.key

end RecordDescriptor

/-! ## 1. Caches -/

/-- The descriptors that have been built, each for the number of its record type.  A cache does not
look into descriptors, so anything can stand for them. -/
structure DescriptorCache (δ : Type := RecordDescriptor) where
  entries : List (RecordId × δ) := []
deriving DecidableEq, Inhabited

namespace DescriptorCache

variable {δ : Type}

def empty : DescriptorCache δ := {}

def get? (cache : DescriptorCache δ) (id : RecordId) : Option δ := cache.entries.lookup id

def size (cache : DescriptorCache δ) : Nat := cache.entries.length

def isEmpty (cache : DescriptorCache δ) : Bool := cache.entries.isEmpty

/-- Stores a descriptor, unless there is one for the record type. -/
def insertIfAbsent (cache : DescriptorCache δ) (id : RecordId) (descriptor : δ) :
    DescriptorCache δ :=
  match cache.get? id with
  | some _ => cache
  | none => ⟨cache.entries ++ [(id, descriptor)]⟩

/-- The descriptor of a record type, built and stored if there is none.  A build that fails stores
nothing. -/
def getOrInsert {ε : Type} (cache : DescriptorCache δ) (id : RecordId) (build : Except ε δ) :
    Except ε δ × DescriptorCache δ :=
  match cache.get? id with
  | some descriptor => (.ok descriptor, cache)
  | none =>
    match build with
    | .ok descriptor => (.ok descriptor, cache.insertIfAbsent id descriptor)
    | .error e => (.error e, cache)

theorem get?_insertIfAbsent (cache : DescriptorCache δ) (id other : RecordId) (descriptor : δ) :
    (cache.insertIfAbsent id descriptor).get? other =
      if other = id then some ((cache.get? id).getD descriptor) else cache.get? other := by
  unfold insertIfAbsent
  cases h : cache.get? id with
  | some found =>
    by_cases ho : other = id
    · rw [if_pos ho, ho, h]
      rfl
    · rw [if_neg ho]
  | none =>
    unfold get? at *
    rw [List.lookup_append]
    by_cases ho : other = id
    · subst ho
      simp [h]
    · simp [ho, List.lookup_cons, beq_eq_false_iff_ne.2 ho]

end DescriptorCache

end Dossier
