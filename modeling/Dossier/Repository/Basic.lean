/-
# Records in a store

A repository keeps the records of one type in one collection.  Each operation is a procedure on the
store: records become documents by the repository's converter, and a record is addressed by a query
for its identity.

Deleting reads the record first and then deletes it, in two calls, and gives what it read.
-/
import Dossier.Converter.Decode
import Dossier.Query.Compile
import Dossier.Repository.Search
import Dossier.Store.Procedure

namespace Dossier

/-- The records of one type in one collection. -/
structure Repository where
  types : Schema
  record : RecordId
  collection : String
  converter : Converter := {}

namespace Repository

variable (r : Repository)

/-- The query for an identity. -/
def identityQuery (id : Literal) : Procedure Document :=
  .done ((Condition.operand r.converter.identityKey .eq id).compile.mapError .compile)

def encode (values : List Value) : Procedure Document :=
  .ofConversion (r.converter.encode r.types r.record values)

def decode (d : Document) : Procedure (List Value) :=
  .ofConversion (r.converter.decode r.types r.record d)

/-- Decodes documents up to the first that does not convert. -/
def decodeAll : List Document → Procedure (List (List Value))
  | [] => pure []
  | d :: rest => do
    let values ← r.decode d
    return values :: (← decodeAll rest)

/-- No record has the identity. -/
def notFound {α : Type} (id : Literal) : Procedure α := .fail (.notFound id.toText r.collection)

/-- Stores a new record. -/
def create (values : List Value) : Procedure Unit := do
  let document ← r.encode values
  Procedure.perform (.insert r.collection document)

/-- The record of an identity. -/
def read (id : Literal) : Procedure (List Value) := do
  let query ← r.identityQuery id
  let found : Store.Found ← Procedure.perform (.find r.collection query 0 (some 1))
  match found.documents with
  | d :: _ => r.decode d
  | [] => r.notFound id

/-- The fields of a document that an update sets: all but the identity and those without value. -/
def suppliedFields (d : Document) : Document :=
  d.filter fun (key, value) => key != r.converter.identityKey && !value.isNull

/-- Sets the fields of a record that have a value in `values`. -/
def update (id : Literal) (values : List Value) : Procedure Unit := do
  let fields := r.suppliedFields (← r.encode values)
  if fields.isEmpty then .fail (.invalidDocument .emptyUpdate)
  else do
    let query ← r.identityQuery id
    let changed : Bool ←
      Procedure.perform (.update r.collection query [("$set", .document fields)])
    if changed then return () else r.notFound id

/-- Deletes the record of an identity, and gives it as it was read before. -/
def delete (id : Literal) : Procedure (List Value) := do
  let values ← r.read id
  let query ← r.identityQuery id
  let _deleted : Bool ← Procedure.perform (.delete r.collection query)
  return values

/-- One page of the records that satisfy a filter. -/
def search (request : SearchRequest) : Procedure SearchPage := do
  let query ← .done (compileFilter request.filter)
  let found : Store.Found ←
    Procedure.perform (.find r.collection query request.skip request.size)
  let records ← r.decodeAll found.documents
  return ⟨request.skip, found.total, records⟩

end Repository

end Dossier
