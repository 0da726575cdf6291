/-
# What a repository asks of the store

Each operation of a repository comes down to calls of the store, and its result to what they are
answered.  The lemmas here run the operations on a store, one for each way that they can go; what
the calls are answered is left to their hypotheses.

Finding a record is one call, whose answer decides between a record and none.  An update sends
the fields that are supplied, if there are any.  Deleting finds the record first, and what is
deleted then is not looked at.
-/
import Dossier.Proofs.Repository.Key

namespace Dossier

namespace Procedure

variable {σ α β : Type} {service : Service σ}

theorem run_bind_ok {p : Procedure α} {next : α → Procedure β} {state state' : σ} {a : α}
    (h : p.run service state = (.ok a, state')) :
    (p >>= next).run service state = (next a).run service state' := by
  show (p.bind next).run service state = _
  rw [run_bind, h]

theorem run_bind_error {p : Procedure α} {next : α → Procedure β} {state state' : σ}
    {e : StoreError} (h : p.run service state = (.error e, state')) :
    (p >>= next).run service state = (.error e, state') := by
  show (p.bind next).run service state = _
  rw [run_bind, h]

theorem run_ofConversion_ok {result : Except ConversionError α} {a : α} (h : result = .ok a)
    (state : σ) : (ofConversion result).run service state = (.ok a, state) := by
  rw [h]
  rfl

end Procedure

namespace Repository

variable {r : Repository} {s s' : Store} {id : Literal} {values : List Value} {d : Document}

/-! ## 1. Creating -/

theorem run_create_ok (hencode : r.converter.encode r.types r.record values = .ok d)
    (hinsert : s.insert r.collection d = .ok s') :
    (r.create values).run Store.service s = (.ok (), s') := by
  refine (Procedure.run_bind_ok (Procedure.run_ofConversion_ok hencode s)).trans ?_
  show s.settle ((s.insert r.collection d).map fun s => ((), s)) = _
  rw [hinsert]
  rfl

theorem run_create_error {e : StoreError}
    (hencode : r.converter.encode r.types r.record values = .ok d)
    (hinsert : s.insert r.collection d = .error e) :
    (r.create values).run Store.service s = (.error e, s) := by
  refine (Procedure.run_bind_ok (Procedure.run_ofConversion_ok hencode s)).trans ?_
  show s.settle ((s.insert r.collection d).map fun s => ((), s)) = _
  rw [hinsert]
  rfl

/-! ## 2. Reading -/

theorem run_identityQuery (hkey : r.converter.identityKey = storeIdentityKey) (id : Literal)
    (s : Store) :
    (r.identityQuery id).run Store.service s = (.ok id.identityQuery, s) := by
  rw [identityQuery_eq hkey]
  rfl

theorem run_find {found : Store.Found}
    (hfind : s.find r.collection id.identityQuery 0 (some 1) = .ok found) :
    (Procedure.perform (.find r.collection id.identityQuery 0 (some 1))).run Store.service s =
      (.ok found, s) :=
  Prod.ext hfind rfl

theorem run_read_found (hkey : r.converter.identityKey = storeIdentityKey) {total : Option Nat}
    (hfind : s.find r.collection id.identityQuery 0 (some 1) = .ok ⟨[d], total⟩)
    (hdecode : r.converter.decode r.types r.record d = .ok values) :
    (r.read id).run Store.service s = (.ok values, s) := by
  refine (Procedure.run_bind_ok (run_identityQuery hkey id s)).trans ?_
  refine (Procedure.run_bind_ok (run_find hfind)).trans ?_
  exact Procedure.run_ofConversion_ok hdecode s

theorem run_read_missing (hkey : r.converter.identityKey = storeIdentityKey) {total : Option Nat}
    (hfind : s.find r.collection id.identityQuery 0 (some 1) = .ok ⟨[], total⟩) :
    (r.read id).run Store.service s = (.error (.notFound id.toText r.collection), s) := by
  refine (Procedure.run_bind_ok (run_identityQuery hkey id s)).trans ?_
  refine (Procedure.run_bind_ok (run_find hfind)).trans ?_
  rfl

/-! ## 3. Updating -/

theorem run_update_empty (hencode : r.converter.encode r.types r.record values = .ok d)
    (hempty : (r.suppliedFields d).isEmpty = true) :
    (r.update id values).run Store.service s =
      (.error (.invalidDocument .emptyUpdate), s) := by
  refine (Procedure.run_bind_ok (Procedure.run_ofConversion_ok hencode s)).trans ?_
  dsimp only
  rw [if_pos hempty]
  rfl

theorem run_update (hkey : r.converter.identityKey = storeIdentityKey)
    (hencode : r.converter.encode r.types r.record values = .ok d)
    (hnonempty : (r.suppliedFields d).isEmpty = false) {changed : Bool}
    (hupdate : s.update r.collection id.identityQuery
      [("$set", .document (r.suppliedFields d))] = .ok (changed, s')) :
    (r.update id values).run Store.service s =
      (if changed then .ok () else .error (.notFound id.toText r.collection), s') := by
  have hcall : (Procedure.perform (.update r.collection id.identityQuery
      [("$set", .document (r.suppliedFields d))])).run Store.service s = (.ok changed, s') := by
    show s.settle (s.update r.collection id.identityQuery _) = _
    rw [hupdate]
    rfl
  refine (Procedure.run_bind_ok (Procedure.run_ofConversion_ok hencode s)).trans ?_
  dsimp only
  rw [if_neg (Bool.eq_false_iff.mp hnonempty)]
  refine (Procedure.run_bind_ok (run_identityQuery hkey id s)).trans ?_
  refine (Procedure.run_bind_ok hcall).trans ?_
  cases changed <;> rfl

/-! ## 4. Deleting -/

theorem run_delete_found (hkey : r.converter.identityKey = storeIdentityKey)
    (hread : (r.read id).run Store.service s = (.ok values, s)) {deleted : Bool}
    (hdelete : s.delete r.collection id.identityQuery = .ok (deleted, s')) :
    (r.delete id).run Store.service s = (.ok values, s') := by
  have hcall : (Procedure.perform (.delete r.collection id.identityQuery)).run Store.service s =
      (.ok deleted, s') := by
    show s.settle (s.delete r.collection id.identityQuery) = _
    rw [hdelete]
    rfl
  refine (Procedure.run_bind_ok hread).trans ?_
  refine (Procedure.run_bind_ok (run_identityQuery hkey id s)).trans ?_
  exact Procedure.run_bind_ok hcall

theorem run_delete_missing {e : StoreError}
    (hread : (r.read id).run Store.service s = (.error e, s)) :
    (r.delete id).run Store.service s = (.error e, s) :=
  Procedure.run_bind_error hread

end Repository

end Dossier
