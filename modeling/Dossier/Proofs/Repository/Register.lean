/-
# A repository as a map

To its users a repository is a finite map from identities to records.  `Register` is that map, and
`Register.answer` says what each request does to it: no documents, no queries and no store.

An entry is the record as it is read again, with its points in time at millisecond resolution
(`Repository.entry`), and an identity is a literal at that resolution.  A request that fails leaves
the register as it was.
-/
import Dossier.Proofs.Record.Typing
import Dossier.Proofs.Repository.Key
import Mathlib.Data.Finmap

namespace Dossier

namespace Repository

/-! ## 1. Requests -/

/-- What is asked of a repository. -/
inductive Request where
  | create (values : List Value)
  | read (id : Literal)
  | update (id : Literal) (values : List Value)
  | delete (id : Literal)

/-- What a request is answered with, if it does not fail. -/
inductive Reply where
  | done
  | record (values : List Value)

/-- The operation that a request asks for. -/
def Request.procedure (r : Repository) : Request → Procedure Reply
  | .create values => do
    r.create values
    return .done
  | .read id => return .record (← r.read id)
  | .update id values => do
    r.update id values
    return .done
  | .delete id => return .record (← r.delete id)

/-- Serves requests on a store, one after another: the replies, and the store after them. -/
def serve (r : Repository) : List Request → Store → List (Except StoreError Reply) × Store
  | [], s => ([], s)
  | request :: rest, s =>
    let (reply, s) := (request.procedure r).run Store.service s
    let (replies, s) := serve r rest s
    (reply :: replies, s)

/-! ## 2. Entries -/

/-- A record as it is read again: points in time floored, each field in the form that the record
keeps. -/
def entry (r : Repository) (values : List Value) : Except ConversionError (List Value) :=
  (r.types r.record).accept r.types (values.map Value.floored)

end Repository

/-- The identity among the values of a record, by its place. -/
def identityOf (place : Nat) (values : List Value) : Literal :=
  values[place]?.elim .null Value.literal

/-- The values that an update supplies: all but the identity. -/
def supplied (place : Nat) (values : List Value) : List Value := values.set place .null

/-- An entry with the values that are supplied and not null in the place of its own. -/
def merge (entry values : List Value) : List Value :=
  entry.zipWith (fun old new => if new.isNull then old else new) values

/-! ## 3. Answers -/

/-- Records by their identities. -/
abbrev Register := Finmap fun _ : Literal => List Value

namespace Register

variable (r : Repository) (place : Nat) (m : Register)

/-- What is answered to a request, and the register after it. -/
def answer : Repository.Request → Except StoreError (Repository.Reply × Register)
  | .create values => do
    let entry ← (r.entry values).mapError .conversion
    let key := (identityOf place values).atMillis
    if key ∈ m then .error (.alreadyExists key.toBson.toText r.collection)
    else return (.done, m.insert key entry)
  | .read id =>
    match m.lookup id.atMillis with
    | some entry => .ok (.record entry, m)
    | none => .error (.notFound id.toText r.collection)
  | .update id values => do
    let new := supplied place (← (r.entry values).mapError .conversion)
    if new.all Value.isNull then .error (.invalidDocument .emptyUpdate)
    else
      match m.lookup id.atMillis with
      | some entry => return (.done, m.insert id.atMillis (merge entry new))
      | none => .error (.notFound id.toText r.collection)
  | .delete id =>
    match m.lookup id.atMillis with
    | some entry => .ok (.record entry, m.erase id.atMillis)
    | none => .error (.notFound id.toText r.collection)

/-- One request: the reply, and the register after it. -/
def step (request : Repository.Request) : Except StoreError Repository.Reply × Register :=
  match m.answer r place request with
  | .ok (reply, m) => (.ok reply, m)
  | .error e => (.error e, m)

/-- Requests one after another. -/
def serve (m : Register) :
    List Repository.Request → List (Except StoreError Repository.Reply) × Register
  | [] => ([], m)
  | request :: rest =>
    let (reply, m) := m.step r place request
    let (replies, m) := serve m rest
    (reply :: replies, m)

/-! ## 4. Single steps -/

variable {r : Repository} {place : Nat} {m : Register} {values entry : List Value}

/-- A record that is taken is added, unless its identity is there. -/
theorem step_create (hentry : r.entry values = .ok entry) :
    m.step r place (.create values) =
      if (identityOf place values).atMillis ∈ m then
        (.error (.alreadyExists (identityOf place values).atMillis.toBson.toText r.collection), m)
      else (.ok .done, m.insert (identityOf place values).atMillis entry) := by
  simp only [step, answer, hentry, Except.mapError, bind, Except.bind]
  by_cases hmem : (identityOf place values).atMillis ∈ m
  · rw [if_pos hmem, if_pos hmem]
  · rw [if_neg hmem, if_neg hmem]
    rfl

theorem step_read (id : Literal) :
    m.step r place (.read id) =
      match m.lookup id.atMillis with
      | some entry => (.ok (.record entry), m)
      | none => (.error (.notFound id.toText r.collection), m) := by
  rw [step, answer]
  cases m.lookup id.atMillis with
  | some entry => rfl
  | none => rfl

/-- Nothing to change is said before the entry is looked for. -/
theorem step_update (hentry : r.entry values = .ok entry) (id : Literal) :
    m.step r place (.update id values) =
      if (supplied place entry).all Value.isNull then (.error (.invalidDocument .emptyUpdate), m)
      else
        match m.lookup id.atMillis with
        | some old => (.ok .done, m.insert id.atMillis (merge old (supplied place entry)))
        | none => (.error (.notFound id.toText r.collection), m) := by
  simp only [step, answer, hentry, Except.mapError, bind, Except.bind]
  by_cases hnull : (supplied place entry).all Value.isNull = true
  · rw [if_pos hnull, if_pos hnull]
  · rw [if_neg hnull, if_neg hnull]
    cases m.lookup id.atMillis with
    | some old => rfl
    | none => rfl

theorem step_delete (id : Literal) :
    m.step r place (.delete id) =
      match m.lookup id.atMillis with
      | some entry => (.ok (.record entry), m.erase id.atMillis)
      | none => (.error (.notFound id.toText r.collection), m) := by
  rw [step, answer]
  cases m.lookup id.atMillis with
  | some entry => rfl
  | none => rfl

end Register

end Dossier
