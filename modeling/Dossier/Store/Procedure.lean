/-
# Procedures on a store

A procedure issues calls to a store and goes on with their answers; it touches nothing else.  A
`Service` is what performs the calls: a store itself, or one wrapped so that calls are recorded
or totals are not reported.  As a procedure shows its calls one by one, those of several procedures
can be interleaved.
-/
import Dossier.Store

namespace Dossier

/-- One call to a store. -/
inductive StoreCall where
  | find (collection : String) (query : Document) (skip : Nat) (limit : Option Nat)
  | insert (collection : String) (document : Document)
  | update (collection : String) (query change : Document)
  | delete (collection : String) (query : Document)
deriving Inhabited

/-- What a call is answered with, if it does not fail. -/
def StoreCall.Answer : StoreCall → Type
  | .find .. => Store.Found
  | .insert .. => Unit
  | .update .. => Bool
  | .delete .. => Bool

/-- The answer of a call, or an error. -/
abbrev StoreCall.Outcome (call : StoreCall) : Type := Except StoreError call.Answer

/-- A result, or a call and what follows its outcome. -/
inductive Procedure (α : Type) where
  | done (result : Except StoreError α)
  | issue (call : StoreCall) (next : call.Outcome → Procedure α)

namespace Procedure

/-- Goes on with the result of a procedure; an error ends it. -/
def bind {α β : Type} (p : Procedure α) (next : α → Procedure β) : Procedure β :=
  match p with
  | done (.ok a) => next a
  | done (.error e) => done (.error e)
  | issue call following => issue call fun outcome => (following outcome).bind next

instance : Monad Procedure where
  pure a := done (.ok a)
  bind := bind

/-- Issues one call. -/
def perform (call : StoreCall) : Procedure call.Answer := issue call done

/-- Ends with an error. -/
def fail {α : Type} (error : StoreError) : Procedure α := done (.error error)

/-- A conversion as part of a procedure. -/
def ofConversion {α : Type} (result : Except ConversionError α) : Procedure α :=
  done (result.mapError .conversion)

end Procedure

/-! ## 1. Services -/

/-- What performs calls, changing a state. -/
abbrev Service (σ : Type) := (call : StoreCall) → σ → call.Outcome × σ

/-- The outcome of a change, and the store that it leaves. -/
def Store.settle {α : Type} (s : Store) :
    Except StoreError (α × Store) → Except StoreError α × Store
  | .ok (answer, s) => (.ok answer, s)
  | .error e => (.error e, s)

/-- A store performs calls by its own operations. -/
def Store.service : Service Store
  | .find collection query skip limit, s => (s.find collection query skip limit, s)
  | .insert collection document, s => s.settle ((s.insert collection document).map fun s => ((), s))
  | .update collection query change, s => s.settle (s.update collection query change)
  | .delete collection query, s => s.settle (s.delete collection query)

/-- Runs a procedure: its result, and the state after it. -/
def Procedure.run {σ α : Type} (service : Service σ) (p : Procedure α) (state : σ) :
    Except StoreError α × σ :=
  match p with
  | done result => (result, state)
  | issue call next =>
    let (outcome, state) := service call state
    (next outcome).run service state

theorem Procedure.run_bind {σ α β : Type} (service : Service σ) (p : Procedure α)
    (next : α → Procedure β) (state : σ) :
    (p.bind next).run service state =
      match p.run service state with
      | (.ok a, state) => (next a).run service state
      | (.error e, state) => (.error e, state) := by
  induction p generalizing state with
  | done result =>
    cases result with
    | ok a => rfl
    | error e => rfl
  | issue call following ih => exact ih _ _

namespace Service

/-- Records each call, the latest in front. -/
def recording {σ : Type} (service : Service σ) : Service (σ × List StoreCall)
  | call, (state, calls) =>
    let (outcome, state) := service call state
    (outcome, state, call :: calls)

/-- Leaves out how many documents there are in all. -/
def withoutTotals {σ : Type} (service : Service σ) : Service σ
  | .find collection query skip limit, state =>
    let (outcome, state) := service (.find collection query skip limit) state
    (Except.map (fun found : Store.Found => { found with total := none }) outcome, state)
  | call, state => service call state

end Service

end Dossier
