/-
# The document store

A store keeps documents in named collections, each in the order of insertion.  A collection comes
into being with its first document and stays when the last is deleted.

Operations give their answer with the store after it, or an error; an operation that fails leaves
no store behind, so the one before it stands.  An insertion refuses a document whose `_id` is the
same as that of one already there.  An update changes the first document that satisfies a query:
only `$set` is known, it writes at dotted paths, and it does not touch the identity.
-/
import Dossier.Bson.Text
import Dossier.Query.Evaluate

namespace Dossier

/-- The key of a document's identity in a store. -/
def storeIdentityKey : String := "_id"

/-- Collections and their documents. -/
structure Store where
  collections : List (String × List Document) := []
deriving Inhabited

namespace Store

def empty : Store := {}

/-- The documents of a collection, if there is one. -/
def get? (s : Store) (collection : String) : Option (List Document) :=
  s.collections.lookup collection

/-- Puts documents in the place of those of a collection. -/
def put (s : Store) (collection : String) (documents : List Document) : Store :=
  let rec go : List (String × List Document) → List (String × List Document)
    | [] => [(collection, documents)]
    | (name, old) :: rest =>
      if name = collection then (name, documents) :: rest else (name, old) :: go rest
  ⟨go s.collections⟩

/-- The names of all collections, in order of their code points. -/
def names (s : Store) : List String :=
  (s.collections.map Prod.fst).mergeSort fun a b => compare a b != .gt

/-! ## 1. Finding -/

/-- The documents that were asked for, and the number of all that satisfy the query if the store
says it. -/
structure Found where
  documents : List Document
  total : Option Nat

/-- The documents from a place on, at most as many as a limit. -/
def page {α : Type} (skip : Nat) (limit : Option Nat) (items : List α) : List α :=
  match limit with
  | some n => (items.drop skip).take n
  | none => items.drop skip

def find (s : Store) (collection : String) (query : Document) (skip : Nat) (limit : Option Nat) :
    Except StoreError Found :=
  match s.get? collection with
  | none => .ok ⟨[], some 0⟩
  | some documents =>
    match Query.select id query documents with
    | .error fault => .error (.invalidDocument fault)
    | .ok selected => .ok ⟨page skip limit selected, some selected.length⟩

/-! ## 2. Inserting and deleting -/

/-- Whether a document of a list has the given identity. -/
def holdsIdentity (identity : Bson) (documents : List Document) : Bool :=
  documents.any fun d => match d.get? storeIdentityKey with
    | some other => other.same identity
    | none => false

def insert (s : Store) (collection : String) (document : Document) : Except StoreError Store :=
  let documents := (s.get? collection).getD []
  match document.get? storeIdentityKey with
  | some identity =>
    if holdsIdentity identity documents then .error (.alreadyExists identity.toText collection)
    else .ok (s.put collection (documents ++ [document]))
  | none => .ok (s.put collection (documents ++ [document]))

/-- Deletes the first document that satisfies a query, and says whether there was one. -/
def delete (s : Store) (collection : String) (query : Document) :
    Except StoreError (Bool × Store) :=
  match s.get? collection with
  | none => .ok (false, s)
  | some documents =>
    match Query.findFirst query documents with
    | .error fault => .error (.invalidDocument fault)
    | .ok none => .ok (false, s)
    | .ok (some place) => .ok (true, s.put collection (documents.eraseIdx place))

/-! ## 3. Updating -/

/-- Writes values at their paths, one after another. -/
def setFields : List (String × Bson) → Document → Except DocumentFault Document
  | [], d => .ok d
  | (path, value) :: rest, d =>
    if path = storeIdentityKey then .error .identityUpdate
    else setFields rest (Path.set (Path.segments path) value d)

/-- Applies the operators of an update, one after another. -/
def applyUpdate : List (String × Bson) → Document → Except DocumentFault Document
  | [], d => .ok d
  | (op, operand) :: rest, d =>
    match op, operand with
    | "$set", .document fields => do applyUpdate rest (← setFields fields d)
    | _, _ => .error (.updateOperator op)

/-- Updates the first document that satisfies a query, and says whether there was one. -/
def update (s : Store) (collection : String) (query change : Document) :
    Except StoreError (Bool × Store) :=
  match s.get? collection with
  | none => .ok (false, s)
  | some documents =>
    match Query.findFirst query documents with
    | .error fault => .error (.invalidDocument fault)
    | .ok none => .ok (false, s)
    | .ok (some place) =>
      match applyUpdate change (documents[place]?.getD []) with
      | .error fault => .error (.invalidDocument fault)
      | .ok changed => .ok (true, s.put collection (documents.set place changed))

end Store

end Dossier
