/-
# Interleaved procedures

Clients run procedures on one store.  A call is performed as a whole, and between two calls of a
client others make theirs (`Interleaved`).

What happens to one client is a matter of its own procedure: its calls are those that the procedure
issues, each answered by the store that it met, whatever the others have made of that store
(`Interleaved.follows`).  So what a procedure can do is found without looking at the others, and
only what its calls meet depends on them.

Of all calls only deletions take documents out of a store, and each takes out the first that
satisfies its query (`Event.removes_iff`).
-/
import Dossier.Proofs.Store.Calls
import Mathlib.Data.Multiset.ZeroCons

namespace Dossier

variable {ι α β : Type}

/-! ## 1. Events -/

/-- A call as it was made: by whom, and the store that it met. -/
structure Event (ι : Type) where
  issuer : ι
  call : StoreCall
  store : Store

/-- The store that a call has left. -/
def Event.after (e : Event ι) : Store := (Store.service e.call e.store).2

/-- The call took a document out of a collection. -/
def Event.Removes (e : Event ι) (collection : String) (d : Document) : Prop :=
  ∃ before after, e.store.documents collection = before ++ d :: after ∧
    e.after.documents collection = before ++ after

def StoreCall.IsDelete : StoreCall → Prop
  | .delete .. => True
  | _ => False

theorem Store.service_delete_of_first {s : Store} {collection : String} {query : Document}
    {before after : List Document} {d : Document}
    (hds : s.documents collection = before ++ d :: after) (hfirst : Query.First query before d) :
    service (.delete collection query) s = (.ok true, s.put collection (before ++ after)) := by
  rw [service, delete_of_first hds hfirst]
  rfl

/-- Where one item is taken out of a list, what is left says which. -/
theorem eq_of_removed {x y : α} {before after before' after' : List α}
    (h : before ++ x :: after = before' ++ y :: after') (h' : before ++ after = before' ++ after') :
    x = y := by
  have hperm : (x :: (before ++ after)).Perm (y :: (before ++ after)) := by
    calc (x :: (before ++ after)).Perm (before ++ x :: after) := List.perm_middle.symm
      _ = before' ++ y :: after' := h
      List.Perm _ (y :: (before' ++ after')) := List.perm_middle
      _ = y :: (before ++ after) := by rw [h']
  have hcons := Multiset.coe_eq_coe.mpr hperm
  rw [← Multiset.cons_coe, ← Multiset.cons_coe] at hcons
  exact (Multiset.cons_inj_left _).mp hcons

/-- **Only deletions take documents out**, each the first that satisfies its query. -/
theorem Event.removes_iff {e : Event ι} {collection : String} {d : Document} :
    e.Removes collection d ↔ ∃ query before after, e.call = .delete collection query ∧
      e.store.documents collection = before ++ d :: after ∧ Query.First query before d := by
  constructor
  · rintro ⟨before, after, hds, hafter⟩
    unfold Event.after at hafter
    have hlength : (before ++ after).length + 1 = (before ++ d :: after).length := by
      simp only [List.length_append, List.length_cons]
      omega
    rcases Store.step_service e.call e.store with heq | ⟨changed, ds, hstep, heq⟩
    · rw [heq, hds] at hafter
      rw [hafter] at hlength
      omega
    · by_cases hcollection : collection = changed
      · subst hcollection
        rw [heq, Store.documents_put_self] at hafter
        rw [hds, hafter] at hstep
        generalize hcall : e.call = call at hstep ⊢
        generalize hleft : before ++ after = left at hstep hlength
        generalize hall : before ++ d :: after = all at hstep hlength hds
        cases hstep with
        | insert _ =>
          rw [List.length_append, List.length_singleton] at hlength
          omega
        | update _ _ =>
          simp only [List.length_append, List.length_cons] at hlength
          omega
        | @delete query before' after' d' hfirst =>
          obtain rfl := eq_of_removed hall hleft
          exact ⟨query, before', after', rfl, hds, hfirst⟩
      · rw [heq, Store.documents_put_of_ne _ _ hcollection, hds] at hafter
        rw [hafter] at hlength
        omega
  · rintro ⟨query, before, after, hcall, hds, hfirst⟩
    refine ⟨before, after, hds, ?_⟩
    unfold Event.after
    rw [hcall, Store.service_delete_of_first hds hfirst, Store.documents_put_self]

/-! ## 2. One client -/

namespace Procedure

/-- A procedure makes calls, one after another, and comes to another procedure. -/
inductive Follows : Procedure α → List (Event ι) → Procedure α → Prop where
  | refl (p : Procedure α) : Follows p [] p
  | issue {call : StoreCall} {next : call.Outcome → Procedure α} {i : ι} {s : Store}
      {rest : List (Event ι)} {p : Procedure α}
      (h : Follows (next (Store.service call s).1) rest p) :
      Follows (.issue call next) (⟨i, call, s⟩ :: rest) p

theorem Follows.snoc {p : Procedure α} {own : List (Event ι)} {call : StoreCall}
    {next : call.Outcome → Procedure α} (h : p.Follows own (.issue call next)) (i : ι) (s : Store) :
    p.Follows (own ++ [⟨i, call, s⟩]) (next (Store.service call s).1) := by
  generalize hq : Procedure.issue call next = q at h
  induction h with
  | refl =>
    subst hq
    exact .issue (.refl _)
  | issue _ ih => exact .issue (ih hq)

/-- All calls that the procedure can make are allowed. -/
inductive Uses (allowed : StoreCall → Prop) : Procedure α → Prop where
  | done (result : Except StoreError α) : Uses allowed (.done result)
  | issue {call : StoreCall} {next : call.Outcome → Procedure α} (hcall : allowed call)
      (hnext : ∀ outcome, Uses allowed (next outcome)) : Uses allowed (.issue call next)

variable {allowed : StoreCall → Prop}

theorem Uses.bind {p : Procedure α} {next : α → Procedure β} (hp : p.Uses allowed)
    (hnext : ∀ a, (next a).Uses allowed) : (p >>= next).Uses allowed := by
  induction hp with
  | done result =>
    cases result with
    | ok a => exact hnext a
    | error e => exact .done _
  | issue hcall _ ih => exact .issue hcall ih

theorem uses_perform {call : StoreCall} (h : allowed call) : (perform call).Uses allowed :=
  .issue h .done

theorem Follows.uses {p q : Procedure α} {own : List (Event ι)} (h : p.Follows own q)
    (hp : p.Uses allowed) : ∀ e ∈ own, allowed e.call := by
  induction h with
  | refl => exact fun e he => absurd he List.not_mem_nil
  | issue _ ih =>
    cases hp with
    | issue hcall hnext => exact List.forall_mem_cons.mpr ⟨hcall, ih (hnext _)⟩

end Procedure

/-! ## 3. All clients -/

variable [DecidableEq ι]

/-- Calls one after another, each the next of some client's procedure. -/
inductive Interleaved (procedures : ι → Procedure α) (start : Store) :
    List (Event ι) → Store → (ι → Procedure α) → Prop where
  | refl : Interleaved procedures start [] start procedures
  | step {events : List (Event ι)} {s : Store} {current : ι → Procedure α} {i : ι}
      {call : StoreCall} {next : call.Outcome → Procedure α}
      (h : Interleaved procedures start events s current) (hissue : current i = .issue call next) :
      Interleaved procedures start (events ++ [⟨i, call, s⟩]) (Store.service call s).2
        (Function.update current i (next (Store.service call s).1))

/-- The calls of a client. -/
def callsOf (i : ι) (events : List (Event ι)) : List (Event ι) :=
  events.filter fun e => e.issuer = i

theorem mem_callsOf {i : ι} {events : List (Event ι)} {e : Event ι} :
    e ∈ callsOf i events ↔ e ∈ events ∧ e.issuer = i := by
  rw [callsOf, List.mem_filter, decide_eq_true_iff]

variable {procedures : ι → Procedure α} {start s : Store} {events : List (Event ι)}
variable {current : ι → Procedure α}

/-- **Each client follows its own procedure.** -/
theorem Interleaved.follows (h : Interleaved procedures start events s current) (i : ι) :
    (procedures i).Follows (callsOf i events) (current i) := by
  induction h with
  | refl => exact .refl _
  | @step events s current j call next _ hissue ih =>
    unfold callsOf at ih ⊢
    rw [List.filter_append]
    by_cases hj : j = i
    · subst hj
      rw [Function.update_self, List.filter_singleton, decide_eq_true rfl]
      rw [hissue] at ih
      exact ih.snoc j s
    · rw [Function.update_of_ne (Ne.symm hj), List.filter_singleton, decide_eq_false hj]
      exact (List.append_nil _).symm ▸ ih

/-- **A client that nobody interrupts runs its procedure.** -/
theorem Interleaved.run_alone (h : Interleaved procedures start events s current) {i : ι}
    {p : Procedure α} (hp : current i = p) {result : Except StoreError α} {s' : Store}
    (hrun : p.run Store.service s = (result, s')) :
    ∃ own : List (Event ι), (∀ e ∈ own, e.issuer = i) ∧
      Interleaved procedures start (events ++ own) s'
        (Function.update current i (.done result)) := by
  induction p generalizing events s current with
  | done result =>
    cases hrun
    refine ⟨[], fun e he => absurd he List.not_mem_nil, ?_⟩
    rw [List.append_nil, ← hp, Function.update_eq_self]
    exact h
  | issue call next ih =>
    obtain ⟨own, howner, hown⟩ := ih _ (h.step hp) (Function.update_self ..) hrun
    rw [Function.update_idem, List.append_assoc] at hown
    exact ⟨⟨i, call, s⟩ :: own, List.forall_mem_cons.mpr ⟨rfl, howner⟩, hown⟩

end Dossier
