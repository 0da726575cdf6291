/-
# Deleting among others

A repository deletes a record in two calls: it reads the record, and then deletes what the query
for the identity finds.  It returns what it has read, and does not look at the answer to the second
call.  While nobody else uses the store this is the same as one call; here clients serve requests on
one store, and between the two calls others make theirs.

What can be relied on in any interleaving is `Accounted`: documents are taken out by deletions that
succeed only, each by one call, and a deletion returns the record as it was at its first call.  What
its users would expect is more (`Faithful`): each deletion that succeeds has taken a document out,
and returns what this document held.  This is so exactly if at the second call of each deletion the
record is still there and still reads as it did (`Undisturbed`).

Main statement: `deletions`.  `Notes.both_succeed` is a run in which two clients
delete the only record, both with success, and neither gets what was deleted.
-/
import Dossier.Proofs.Converter.Soundness
import Dossier.Proofs.Repository.Calls
import Dossier.Proofs.Repository.Register
import Dossier.Proofs.Store.Frame
import Dossier.Proofs.Store.Interleaving

namespace Dossier

/-- Going on twice is going on once. -/
theorem Procedure.bind_assoc {α β γ : Type} (p : Procedure α) (f : α → Procedure β)
    (g : β → Procedure γ) : (p.bind f).bind g = p.bind fun a => (f a).bind g := by
  induction p with
  | done result => cases result <;> rfl
  | issue call next ih => exact congrArg (Procedure.issue call) (funext ih)

namespace Repository

variable {r : Repository} {id : Literal} {q d : Document} {s : Store} {values : List Value}

/-! ## 1. The query for an identity -/

/-- The identity is looked for under the repository's key. -/
theorem eq_of_identityQuery (hq : r.identityQuery id = .done (.ok q)) :
    q = [(r.converter.identityKey, .document (Operator.eq.query id))] := by
  unfold identityQuery Condition.compile at hq
  split at hq
  · cases hq
  · cases hq
    rfl

/-- Either the query gives an error on all documents, or on none. -/
theorem exists_holds_identityQuery (hq : r.identityQuery id = .done (.ok q)) {b : Bool}
    (h : Query.holds d q = .ok b) : ∃ p : Document → Bool, ∀ d, Query.holds d q = .ok (p d) := by
  cases eq_of_identityQuery hq
  cases hkey : isOperatorKey r.converter.identityKey with
  | true =>
    rw [Query.holds_single, Query.holdsKey, hkey] at h
    cases hconnective : Connective.ofKey? r.converter.identityKey with
    | none =>
      rw [hconnective] at h
      cases h
    | some connective =>
      rw [hconnective] at h
      simp [Query.holdsClause, Operator.query] at h
  | false =>
    have hreadable : Comparison.Readable ⟨storeIdentityKey, .eq, id⟩ :=
      fun h => absurd h Bool.false_ne_true
    refine ⟨fun d => Comparison.test ⟨storeIdentityKey, .eq, id⟩
      (Path.resolve (Path.segments r.converter.identityKey) d), fun d => ?_⟩
    rw [Query.holds_single, Query.holdsKey_field d hkey (Query.all_isOperatorKey_query .eq id)]
    exact Query.holdsOperators_query _ hreadable

/-- Reading is one call. -/
theorem read_eq (hq : r.identityQuery id = .done (.ok q)) :
    r.read id = .issue (.find r.collection q 0 (some 1)) fun outcome =>
      (Procedure.done outcome).bind fun found : Store.Found =>
        match found.documents with
        | d :: _ => r.decode d
        | [] => r.notFound id := by
  unfold read
  rw [hq]
  rfl

/-- **A record is read from the first document that has the identity.** -/
theorem run_read_eq_ok_iff (hq : r.identityQuery id = .done (.ok q)) :
    (r.read id).run Store.service s = (.ok values, s) ↔
      ∃ before d after, s.documents r.collection = before ++ d :: after ∧
        Query.First q before d ∧ r.converter.decode r.types r.record d = .ok values := by
  constructor
  · intro h
    rw [read_eq hq, Procedure.run] at h
    cases hfind : s.find r.collection q 0 (some 1) with
    | error e =>
      rw [Store.service, hfind] at h
      cases h
    | ok found =>
      obtain ⟨all, rfl, -, hfirst⟩ := Store.exists_matches_of_find hfind
      rw [Store.service, hfind] at h
      cases all with
      | nil => cases h
      | cons d others =>
        obtain ⟨before, after, hacts⟩ := hfirst d others rfl
        refine ⟨before, d, after, Store.documents_of_get? hacts.here, hacts.first, ?_⟩
        cases hdecode : r.converter.decode r.types r.record d with
        | error e =>
          have hrun : (Procedure.ofConversion (Except.error e)).run Store.service s =
              (.ok values, s) := hdecode ▸ h
          cases hrun
        | ok found =>
          have hrun : (Procedure.ofConversion (Except.ok found)).run Store.service s =
              (.ok values, s) := hdecode ▸ h
          cases hrun
          rfl
  · rintro ⟨before, d, after, hds, hfirst, hdecode⟩
    obtain ⟨p, hp⟩ := exists_holds_identityQuery hq hfirst.found
    obtain ⟨total, hfind⟩ := Store.find_of_first (fun d _ => hp d) hds hfirst
    rw [read_eq hq, Procedure.run, Store.service, hfind]
    show (Procedure.ofConversion _).run Store.service s = _
    exact Procedure.run_ofConversion_ok hdecode s

/-! ## 2. The calls of a deletion -/

/-- The second call of a deletion that has read a record. -/
def deleteRead (r : Repository) (q : Document) (values : List Value) : Procedure Reply :=
  .issue (.delete r.collection q) fun outcome => .done (outcome.map fun _ => .record values)

/-- How a deletion goes on with what it has found. -/
def deleteFound (r : Repository) (id : Literal) (q : Document) :
    Except StoreError Store.Found → Procedure Reply
  | .error e => .done (.error e)
  | .ok ⟨[], _⟩ => .done (.error (.notFound id.toText r.collection))
  | .ok ⟨d :: _, _⟩ =>
    match r.converter.decode r.types r.record d with
    | .error e => .done (.error (.conversion e))
    | .ok values => r.deleteRead q values

theorem procedure_delete (hq : r.identityQuery id = .done (.ok q)) :
    (Request.delete id).procedure r =
      .issue (.find r.collection q 0 (some 1)) (r.deleteFound id q) := by
  have hdelete : (Request.delete id).procedure r = (r.read id).bind (r.deleteRead q) := by
    refine (Procedure.bind_assoc (r.read id) _ _).trans (congrArg _ (funext fun values => ?_))
    show ((r.identityQuery id).bind _).bind _ = _
    rw [hq]
    refine congrArg (Procedure.issue _) (funext fun outcome => ?_)
    cases outcome <;> rfl
  rw [hdelete, read_eq hq]
  refine congrArg (Procedure.issue _) (funext fun outcome => ?_)
  rcases outcome with e | ⟨_ | ⟨d, rest⟩, total⟩
  · rfl
  · rfl
  · show (r.decode d).bind _ = r.deleteFound id q (.ok ⟨d :: rest, total⟩)
    unfold decode deleteFound
    dsimp only
    cases r.converter.decode r.types r.record d <;> rfl

theorem deleteFound_cases (r : Repository) (id : Literal) (q : Document)
    (outcome : Except StoreError Store.Found) :
    (∃ e, r.deleteFound id q outcome = .done (.error e)) ∨
      ∃ d rest total values, outcome = .ok ⟨d :: rest, total⟩ ∧
        r.converter.decode r.types r.record d = .ok values ∧
        r.deleteFound id q outcome = r.deleteRead q values := by
  rcases outcome with e | ⟨_ | ⟨d, rest⟩, total⟩
  · exact Or.inl ⟨e, rfl⟩
  · exact Or.inl ⟨_, rfl⟩
  · unfold deleteFound
    dsimp only
    cases hdecode : r.converter.decode r.types r.record d with
    | error e => exact Or.inl ⟨_, rfl⟩
    | ok values => exact Or.inr ⟨d, rest, total, values, rfl, hdecode, rfl⟩

/-- A deletion has made both calls.  It has read the record at the first, and whether it succeeds is
up to the second. -/
def Completed {ι : Type} (r : Repository) (id : Literal) (own : List (Event ι))
    (p : Procedure Reply) : Prop :=
  ∃ q values i j s₁ s₂, r.identityQuery id = .done (.ok q) ∧
    own = [⟨i, .find r.collection q 0 (some 1), s₁⟩, ⟨j, .delete r.collection q, s₂⟩] ∧
    (r.read id).run Store.service s₁ = (.ok values, s₁) ∧
    p = .done ((Store.service (.delete r.collection q) s₂).1.map fun _ => .record values)

/-- **A deletion that has not made both calls has deleted nothing and has not succeeded.** -/
theorem follows_delete {ι : Type} {own : List (Event ι)} {p : Procedure Reply}
    (h : ((Request.delete id).procedure r).Follows own p) :
    ((∀ e ∈ own, ¬ e.call.IsDelete) ∧ ∀ reply, p ≠ .done (.ok reply)) ∨
      Completed r id own p := by
  obtain ⟨result, hq⟩ : ∃ result, r.identityQuery id = .done result := ⟨_, rfl⟩
  cases result with
  | error e =>
    have hread : r.read id = .done (.error e) := congrArg (Procedure.bind · _) hq
    have hproc : (Request.delete id).procedure r = .done (.error e) :=
      congrArg (fun p : Procedure (List Value) => (p.bind _).bind _) hread
    rw [hproc] at h
    cases h
    exact Or.inl ⟨by simp, by simp⟩
  | ok q =>
    rw [procedure_delete hq] at h
    cases h with
    | refl => exact Or.inl ⟨by simp, by simp⟩
    | @issue _ _ i s₁ rest _ hrest =>
      have h : (r.deleteFound id q (s₁.find r.collection q 0 (some 1))).Follows rest p := hrest
      rcases deleteFound_cases r id q (s₁.find r.collection q 0 (some 1)) with
        ⟨e, hnext⟩ | ⟨d, others, total, values, hfind, hdecode, hnext⟩
      · rw [hnext] at h
        cases h
        exact Or.inl ⟨by simp [StoreCall.IsDelete], by simp⟩
      · have hread : (r.read id).run Store.service s₁ = (.ok values, s₁) := by
          rw [read_eq hq, Procedure.run, Store.service, hfind]
          exact Procedure.run_ofConversion_ok hdecode s₁
        rw [hnext] at h
        cases h with
        | refl => exact Or.inl ⟨by simp [StoreCall.IsDelete], by simp [deleteRead]⟩
        | @issue _ _ j s₂ _ _ h =>
          cases h
          exact Or.inr ⟨q, values, i, j, s₁, s₂, hq, rfl, hread, rfl⟩

/-- Only deletions delete. -/
theorem uses_of_ne_delete {request : Request} (h : ∀ id, request ≠ .delete id) :
    (request.procedure r).Uses fun call => ¬ call.IsDelete := by
  cases request with
  | create values =>
    have hcreate : (r.create values).Uses fun call => ¬ call.IsDelete :=
      .bind (.done _) fun _ => Procedure.uses_perform not_false
    exact hcreate.bind fun _ => .done _
  | read id =>
    have hread : (r.read id).Uses fun call => ¬ call.IsDelete := by
      refine .bind (.done _) fun _ => .bind (Procedure.uses_perform not_false) fun found => ?_
      rcases found with ⟨_ | ⟨d, rest⟩, total⟩
      · exact .done _
      · exact .done _
    exact hread.bind fun _ => .done _
  | update id values =>
    have hupdate : (r.update id values).Uses fun call => ¬ call.IsDelete := by
      refine .bind (.done _) fun d => ?_
      dsimp only
      split
      · exact .done _
      · refine .bind (.done _) fun _ => .bind (Procedure.uses_perform not_false) fun changed => ?_
        cases changed
        · exact .done _
        · exact .done _
    exact hupdate.bind fun _ => .done _
  | delete id => exact absurd rfl (h id)

/-! ## 3. Clients -/

section

variable {ι : Type} [DecidableEq ι]

/-- What clients do who each make one request, each to a repository of its own. -/
def procedures (requests : ι → Repository × Request) (i : ι) : Procedure Reply :=
  (requests i).2.procedure (requests i).1

/-- What can be relied on, whatever the others do. -/
structure Accounted (requests : ι → Repository × Request) (events : List (Event ι))
    (current : ι → Procedure Reply) : Prop where
  /-- Documents are taken out by deletions that succeed only. -/
  removal : ∀ e ∈ events, ∀ collection d, e.Removes collection d → ∃ r id record,
    requests e.issuer = (r, .delete id) ∧ collection = r.collection ∧
      current e.issuer = .done (.ok (.record record))
  /-- A client deletes once at most. -/
  single : ∀ (k k' : Nat) (e e' : Event ι), events[k]? = some e → events[k']? = some e' →
    e.issuer = e'.issuer → e.call.IsDelete → e'.call.IsDelete → k = k'
  /-- A deletion that succeeds has made two calls, and returns the record as it was at the first. -/
  found : ∀ i r id record, requests i = (r, .delete id) →
    current i = .done (.ok (.record record)) → ∃ q s₁ s₂,
      callsOf i events =
        [⟨i, .find r.collection q 0 (some 1), s₁⟩, ⟨i, .delete r.collection q, s₂⟩] ∧
      (r.read id).run Store.service s₁ = (.ok record, s₁)

/-- Deletions that succeed correspond to the documents that are taken out, and return what these
documents held. -/
structure Faithful (requests : ι → Repository × Request) (events : List (Event ι))
    (current : ι → Procedure Reply) : Prop where
  removed : ∀ i r id record, requests i = (r, .delete id) →
    current i = .done (.ok (.record record)) → ∃! k : Nat, ∃ (e : Event ι) (d : Document),
      events[k]? = some e ∧ e.issuer = i ∧ e.Removes r.collection d ∧
        r.converter.decode r.types r.record d = .ok record
  requested : ∀ e ∈ events, ∀ collection d, e.Removes collection d → ∃ r id record,
    requests e.issuer = (r, .delete id) ∧ collection = r.collection ∧
      current e.issuer = .done (.ok (.record record)) ∧
      r.converter.decode r.types r.record d = .ok record

/-- At the second call of each deletion that succeeds, the record is there and reads as it did at
the first. -/
def Undisturbed (requests : ι → Repository × Request) (events : List (Event ι))
    (current : ι → Procedure Reply) : Prop :=
  ∀ e ∈ events, e.call.IsDelete → ∀ r id record, requests e.issuer = (r, .delete id) →
    current e.issuer = .done (.ok (.record record)) →
      (r.read id).run Store.service e.store = (.ok record, e.store)

variable {requests : ι → Repository × Request} {start : Store} {events : List (Event ι)}
variable {current : ι → Procedure Reply} {i : ι} {e : Event ι}

/-- The first call of a deletion, where there is a record. -/
theorem interleaved_find {procedures : ι → Procedure Reply}
    (h : Interleaved procedures start events s current)
    (hcurrent : current i = (Request.delete id).procedure r)
    (hq : r.identityQuery id = .done (.ok q))
    (hread : (r.read id).run Store.service s = (.ok values, s)) :
    Interleaved procedures start (events ++ [⟨i, .find r.collection q 0 (some 1), s⟩]) s
      (Function.update current i (r.deleteRead q values)) := by
  obtain ⟨before, d, after, hds, hfirst, hdecode⟩ := (run_read_eq_ok_iff hq).mp hread
  obtain ⟨p, hp⟩ := exists_holds_identityQuery hq hfirst.found
  obtain ⟨total, hfind⟩ := Store.find_of_first (fun d _ => hp d) hds hfirst
  have hnext : r.deleteFound id q (s.find r.collection q 0 (some 1)) = r.deleteRead q values := by
    rw [hfind, deleteFound, hdecode]
  exact hnext ▸ h.step (hcurrent.trans (procedure_delete hq))

/-- The second call. -/
theorem interleaved_delete {procedures : ι → Procedure Reply}
    (h : Interleaved procedures start events s current)
    (hcurrent : current i = r.deleteRead q values) {deleted : Bool} {s' : Store}
    (hdelete : Store.service (.delete r.collection q) s = (.ok deleted, s')) :
    Interleaved procedures start (events ++ [⟨i, .delete r.collection q, s⟩]) s'
      (Function.update current i (.done (.ok (.record values)))) := by
  have hstep := h.step hcurrent
  rw [hdelete] at hstep
  exact hstep

theorem completed_of_delete (h : Interleaved (procedures requests) start events s current)
    (he : e ∈ events) (hdelete : e.call.IsDelete) :
    ∃ r id, requests e.issuer = (r, .delete id) ∧
      Completed r id (callsOf e.issuer events) (current e.issuer) := by
  have hfollows := h.follows e.issuer
  have hmem : e ∈ callsOf e.issuer events := mem_callsOf.mpr ⟨he, rfl⟩
  obtain ⟨r, request, hrequest⟩ : ∃ r request, requests e.issuer = (r, request) := ⟨_, _, rfl⟩
  unfold procedures at hfollows
  rw [hrequest] at hfollows
  by_cases hid : ∃ id, request = .delete id
  · obtain ⟨id, rfl⟩ := hid
    rcases follows_delete hfollows with ⟨hnone, -⟩ | hcompleted
    · exact absurd hdelete (hnone e hmem)
    · exact ⟨r, id, hrequest, hcompleted⟩
  · have huses := uses_of_ne_delete (r := r) (not_exists.mp hid)
    exact absurd hdelete (hfollows.uses huses e hmem)

theorem completed_of_ok (h : Interleaved (procedures requests) start events s current)
    (hrequest : requests i = (r, .delete id)) {reply : Reply}
    (hok : current i = .done (.ok reply)) : Completed r id (callsOf i events) (current i) := by
  have hfollows := h.follows i
  unfold procedures at hfollows
  rw [hrequest] at hfollows
  rcases follows_delete hfollows with ⟨-, hne⟩ | hcompleted
  · exact absurd hok (hne reply)
  · exact hcompleted

/-- The calls of a deletion that is completed, as the clients' calls. -/
theorem Completed.calls {p : Procedure Reply} (h : Completed r id (callsOf i events) p) :
    ∃ q values s₁ s₂, r.identityQuery id = .done (.ok q) ∧
      callsOf i events =
        [⟨i, .find r.collection q 0 (some 1), s₁⟩, ⟨i, .delete r.collection q, s₂⟩] ∧
      (r.read id).run Store.service s₁ = (.ok values, s₁) ∧
      p = .done ((Store.service (.delete r.collection q) s₂).1.map fun _ => .record values) := by
  obtain ⟨q, values, j, k, s₁, s₂, hq, hcalls, hread, hp⟩ := h
  have hissuer (e : Event ι) (he : e ∈ callsOf i events) : e.issuer = i := (mem_callsOf.mp he).2
  rw [hcalls] at hissuer
  obtain rfl : j = i := hissuer _ List.mem_cons_self
  obtain rfl : k = j := hissuer _ (List.mem_cons_of_mem _ List.mem_cons_self)
  exact ⟨q, values, s₁, s₂, hq, hcalls, hread, hp⟩

theorem Completed.eq_of_delete {p : Procedure Reply} (h : Completed r id (callsOf i events) p)
    {k k' : Nat} {e e' : Event ι} (he : events[k]? = some e) (he' : events[k']? = some e')
    (hi : e.issuer = i) (hi' : e'.issuer = i) (hdelete : e.call.IsDelete)
    (hdelete' : e'.call.IsDelete) : k = k' := by
  have hpair : events.Pairwise fun a b => a.issuer = i → b.issuer = i →
      ¬ (a.call.IsDelete ∧ b.call.IsDelete) := by
    obtain ⟨q, values, s₁, s₂, -, hcalls, -⟩ := h.calls
    have hown : (callsOf i events).Pairwise fun a b => ¬ (a.call.IsDelete ∧ b.call.IsDelete) := by
      rw [hcalls]
      exact List.pairwise_pair.mpr fun hboth => hboth.1
    simpa only [callsOf, List.pairwise_filter, decide_eq_true_iff] using hown
  obtain ⟨hk, rfl⟩ := List.getElem?_eq_some_iff.mp he
  obtain ⟨hk', rfl⟩ := List.getElem?_eq_some_iff.mp he'
  rw [List.pairwise_iff_getElem] at hpair
  rcases Nat.lt_trichotomy k k' with hlt | heq | hgt
  · exact absurd ⟨hdelete, hdelete'⟩ (hpair k k' hk hk' hlt hi hi')
  · exact heq
  · exact absurd ⟨hdelete', hdelete⟩ (hpair k' k hk' hk hgt hi' hi)

/-- What is taken out is the first document with the identity, and the deletion succeeds. -/
theorem exists_of_removes (h : Interleaved (procedures requests) start events s current)
    (he : e ∈ events) {collection : String} (hremoves : e.Removes collection d) :
    ∃ r id q record before after, requests e.issuer = (r, .delete id) ∧
      r.identityQuery id = .done (.ok q) ∧ collection = r.collection ∧
      current e.issuer = .done (.ok (.record record)) ∧
      e.store.documents r.collection = before ++ d :: after ∧ Query.First q before d := by
  obtain ⟨query, before, after, hcall, hds, hfirst⟩ := Event.removes_iff.mp hremoves
  have hdelete : e.call.IsDelete := hcall ▸ trivial
  obtain ⟨r, id, hrequest, hcompleted⟩ := completed_of_delete h he hdelete
  obtain ⟨q, values, s₁, s₂, hq, hcalls, -, hcurrent⟩ := hcompleted.calls
  have hmem : e ∈ callsOf e.issuer events := mem_callsOf.mpr ⟨he, rfl⟩
  rw [hcalls, List.mem_pair] at hmem
  rcases hmem with heq | heq
  · rw [heq] at hcall
    cases hcall
  · have hstore : e.store = s₂ := congrArg Event.store heq
    have hcall' : e.call = .delete r.collection q := congrArg Event.call heq
    obtain ⟨rfl, rfl⟩ := StoreCall.delete.inj (hcall.symm.trans hcall')
    rw [← hstore, Store.service_delete_of_first hds hfirst] at hcurrent
    exact ⟨r, id, query, values, before, after, hrequest, hq, rfl, hcurrent, hds, hfirst⟩

theorem accounted (h : Interleaved (procedures requests) start events s current) :
    Accounted requests events current where
  removal e he collection d hremoves := by
    obtain ⟨r, id, q, record, -, -, hrequest, -, hcollection, hok, -⟩ :=
      exists_of_removes h he hremoves
    exact ⟨r, id, record, hrequest, hcollection, hok⟩
  single k k' e e' he he' hissuer hdelete hdelete' := by
    obtain ⟨r, id, -, hcompleted⟩ := completed_of_delete h (List.mem_of_getElem? he) hdelete
    exact hcompleted.eq_of_delete he he' rfl hissuer.symm hdelete hdelete'
  found i r id record hrequest hok := by
    obtain ⟨q, values, s₁, s₂, -, hcalls, hread, hcurrent⟩ := (completed_of_ok h hrequest hok).calls
    rw [hok] at hcurrent
    have hrecord : record = values := by
      cases hanswer : (Store.service (.delete r.collection q) s₂).1 with
      | error e => rw [hanswer] at hcurrent; cases hcurrent
      | ok deleted => rw [hanswer] at hcurrent; cases hcurrent; rfl
    exact ⟨q, s₁, s₂, hcalls, hrecord ▸ hread⟩

theorem Undisturbed.faithful (h : Interleaved (procedures requests) start events s current)
    (hsame : Undisturbed requests events current) : Faithful requests events current where
  removed i r id record hrequest hok := by
    have hcompleted := completed_of_ok h hrequest hok
    obtain ⟨q, values, s₁, s₂, hq, hcalls, -, -⟩ := hcompleted.calls
    have hown : ⟨i, .delete r.collection q, s₂⟩ ∈ callsOf i events := by
      rw [hcalls]
      exact List.mem_cons_of_mem _ List.mem_cons_self
    have hmem := (mem_callsOf.mp hown).1
    have hread := hsame _ hmem trivial r id record hrequest hok
    obtain ⟨before, d, after, hds, hfirst, hdecode⟩ := (run_read_eq_ok_iff hq).mp hread
    obtain ⟨k, hk⟩ := List.mem_iff_getElem?.mp hmem
    refine ⟨k, ⟨_, d, hk, rfl, Event.removes_iff.mpr ⟨q, before, after, rfl, hds, hfirst⟩, hdecode⟩,
      ?_⟩
    rintro k' ⟨e', d', hk', hissuer, hremoves, -⟩
    obtain ⟨query, -, -, hcall, -, -⟩ := Event.removes_iff.mp hremoves
    exact hcompleted.eq_of_delete hk' hk hissuer rfl (hcall ▸ trivial) trivial
  requested e he collection d hremoves := by
    obtain ⟨r, id, q, record, before, after, hrequest, hq, hcollection, hok, hds, hfirst⟩ :=
      exists_of_removes h he hremoves
    obtain ⟨query, -, -, hcall, -, -⟩ := Event.removes_iff.mp hremoves
    have hread := hsame e he (hcall ▸ trivial) r id record hrequest hok
    obtain ⟨before', d', after', hds', hfirst', hdecode⟩ := (run_read_eq_ok_iff hq).mp hread
    obtain rfl := hfirst.eq hfirst' (hds.symm.trans hds')
    exact ⟨r, id, record, hrequest, hcollection, hok, hdecode⟩

theorem Faithful.undisturbed (h : Interleaved (procedures requests) start events s current)
    (hfaithful : Faithful requests events current) : Undisturbed requests events current := by
  intro e he hdelete r id record hrequest hok
  obtain ⟨k, ⟨e', d, hk, hissuer, hremoves, hdecode⟩, -⟩ :=
    hfaithful.removed e.issuer r id record hrequest hok
  obtain ⟨k', hk'⟩ := List.mem_iff_getElem?.mp he
  obtain ⟨query, -, -, hcall, -, -⟩ := Event.removes_iff.mp hremoves
  have hplace : k = k' := (completed_of_ok h hrequest hok).eq_of_delete hk hk' hissuer rfl
    (hcall ▸ trivial) hdelete
  obtain rfl : e' = e := Option.some.inj (hk.symm.trans (hplace ▸ hk'))
  obtain ⟨r', id', q, -, before, after, hrequest', hq, -, -, hds, hfirst⟩ :=
    exists_of_removes h he hremoves
  cases hrequest.symm.trans hrequest'
  exact (run_read_eq_ok_iff hq).mpr ⟨before, d, after, hds, hfirst, hdecode⟩

/-- **Deletions among other requests.**  In every interleaving, documents are taken out by deletions
that succeed only; and deletions that succeed correspond to the documents that are taken out, and
return what these held, exactly if no other client has come between the two calls of a deletion and
has deleted or changed the record. -/
theorem deletions (h : Interleaved (procedures requests) start events s current) :
    Accounted requests events current ∧
      (Faithful requests events current ↔ Undisturbed requests events current) :=
  ⟨accounted h, Faithful.undisturbed h, Undisturbed.faithful h⟩

end

/-! ## 4. Two deletions of one record -/

namespace Notes

def notes : Repository where
  types := fun _ => ⟨"Note", [⟨"name", .string, none, true⟩, ⟨"text", .string, none, false⟩], false⟩
  record := 0
  collection := "notes"

def name : Literal := .string "a"

def nameQuery : Document := [("_id", .document [("$eq", .string "a")])]

def note (text : String) : Document := [("_id", .string "a"), ("text", .string text)]

def storeOf (documents : List Document) : Store := ⟨[("notes", documents)]⟩

/-- A note is created and changed, and two clients delete it. -/
def requests : Fin 4 → Repository × Request
  | 0 => (notes, .create [.string "a", .string "first"])
  | 1 => (notes, .update name [.string "a", .string "second"])
  | 2 => (notes, .delete name)
  | 3 => (notes, .delete name)

theorem encode_note (text : String) :
    notes.converter.encode notes.types notes.record [.string "a", .string text] =
      .ok (note text) :=
  Converter.encode_of_entries rfl rfl
    (.cons ⟨rfl, encodeValue_string "a"⟩ (.cons ⟨rfl, encodeValue_string text⟩ .nil))

theorem decode_note (text : String) :
    notes.converter.decode notes.types notes.record (note text) =
      .ok [.string "a", .string text] :=
  bind_eq_ok_iff.mpr ⟨_, Converter.decodeValues_of_reads rfl rfl
    (.cons (.plain (.string "a")) (.cons (.plain (.string text)) .nil)), rfl⟩

theorem first_note (text : String) : Query.First name.identityQuery [] (note text) :=
  ⟨List.forall_mem_nil _, Literal.holds_identityQuery (note text) name⟩

theorem service_delete_note (text : String) :
    Store.service (.delete "notes" nameQuery) (storeOf [note text]) = (.ok true, storeOf []) := by
  have hds : (storeOf [note text]).documents "notes" = [] ++ note text :: [] := rfl
  have hdelete : (storeOf [note text]).delete "notes" nameQuery = .ok (true, storeOf []) :=
    Store.delete_of_first hds (first_note text)
  rw [Store.service, hdelete]
  rfl

theorem run_create : (procedures requests 0).run Store.service {} =
    (.ok .done, storeOf [note "first"]) :=
  Procedure.run_bind_ok (run_create_ok (encode_note "first") rfl)

theorem run_read : (notes.read name).run Store.service (storeOf [note "first"]) =
    (.ok [.string "a", .string "first"], storeOf [note "first"]) := by
  have hds : (storeOf [note "first"]).documents "notes" = [] ++ note "first" :: [] := rfl
  obtain ⟨_, hfind⟩ := Store.find_of_first (fun d _ => Literal.holds_identityQuery d name) hds
    (first_note "first")
  exact run_read_found rfl hfind (decode_note "first")

theorem run_update_note :
    (notes.update name [.string "a", .string "second"]).run Store.service
      (storeOf [note "first"]) = (.ok (), storeOf [note "second"]) := by
  have hds : (storeOf [note "first"]).documents "notes" = [] ++ note "first" :: [] := rfl
  exact (run_update rfl (encode_note "second") rfl
    (Store.update_of_first hds (first_note "first") rfl)).trans rfl

theorem run_read_nothing : (notes.read name).run Store.service (storeOf []) =
    (.error (.notFound "a" "notes"), storeOf []) := rfl

/-- One after the other, the first client gets what was deleted, and the second nothing. -/
theorem deletions_notes : ∃ events current,
    Interleaved (procedures requests) {} events (storeOf []) current ∧
      current 2 = .done (.ok (.record [.string "a", .string "first"])) ∧
      current 3 = .done (.error (.notFound "a" "notes")) ∧
      Accounted requests events current ∧ Faithful requests events current := by
  have hquery : notes.identityQuery name = .done (.ok nameQuery) := rfl
  have hmissing : (procedures requests 3).run Store.service (storeOf []) =
      (.error (.notFound "a" "notes"), storeOf []) :=
    Procedure.run_bind_error (run_delete_missing run_read_nothing)
  obtain ⟨created, hcreator, hcreated⟩ := Interleaved.refl.run_alone rfl run_create
  have hdeleted := interleaved_delete (i := 2)
    (interleaved_find (i := 2) hcreated rfl hquery run_read) rfl
    (service_delete_note "first")
  obtain ⟨missed, hmisser, hdone⟩ := hdeleted.run_alone (i := 3) rfl hmissing
  refine ⟨_, _, hdone, rfl, rfl, (deletions hdone).1, (deletions hdone).2.mpr ?_⟩
  intro e he hdelete r id record hrequest hok
  simp only [List.nil_append, List.mem_append, List.mem_singleton] at he
  rcases he with ((he | rfl) | rfl) | he
  · rw [hcreator e he] at hrequest
    cases hrequest
  · cases hdelete
  · cases hrequest
    cases hok
    exact run_read
  · rw [hmisser e he] at hok
    cases hok

/-- **Two clients delete one record with success.**  Both get the note as it was before it was
changed, and nobody gets what was deleted. -/
theorem both_succeed : ∃ events current,
    Interleaved (procedures requests) {} events (storeOf []) current ∧
      current 1 = .done (.ok .done) ∧
      current 2 = .done (.ok (.record [.string "a", .string "first"])) ∧
      current 3 = .done (.ok (.record [.string "a", .string "first"])) ∧
      ¬ Faithful requests events current := by
  have hquery : notes.identityQuery name = .done (.ok nameQuery) := rfl
  have hupdate : (procedures requests 1).run Store.service (storeOf [note "first"]) =
      (.ok .done, storeOf [note "second"]) := Procedure.run_bind_ok run_update_note
  have hmissed : Store.service (.delete "notes" nameQuery) (storeOf []) =
      (.ok false, storeOf []) := rfl
  obtain ⟨created, -, hcreated⟩ := Interleaved.refl.run_alone rfl run_create
  have hfound := interleaved_find (i := 3) (interleaved_find (i := 2) hcreated rfl hquery run_read)
    rfl hquery run_read
  obtain ⟨changed, -, hchanged⟩ := hfound.run_alone (i := 1) rfl hupdate
  have hdeleted := interleaved_delete (i := 3)
    (interleaved_delete (i := 2) hchanged rfl (service_delete_note "second")) rfl hmissed
  refine ⟨_, _, hdeleted, rfl, rfl, rfl, fun hfaithful => ?_⟩
  have hread := hfaithful.undisturbed hdeleted _
    (List.mem_append_right _ List.mem_cons_self) trivial notes name _ rfl rfl
  rw [run_read_nothing] at hread
  cases hread

end Notes

end Repository

end Dossier
