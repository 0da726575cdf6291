/-
# What a call can do to a store

Each call that changes a store changes the documents of one collection: an insertion adds a
document at the end, an update puts another document in the place of the first that satisfies the
query, and a deletion takes that one out.  `Store.Step` says so, with what the call has
checked, and `step_service` derives it once from the operations, so that an invariant of stores is
a case analysis of three changes.

`Store.after` runs calls one after another; a call that fails leaves the store as it was.
-/
import Dossier.Store.Procedure

namespace Dossier

/-! ## 1. Collections -/

namespace Store

theorem lookup_put_go (collection : String) (documents : List Document) (other : String)
    (collections : List (String × List Document)) :
    (put.go collection documents collections).lookup other =
      if other = collection then some documents else collections.lookup other := by
  induction collections with
  | nil =>
    rw [put.go, List.lookup_cons]
    by_cases h : other = collection
    · rw [if_pos h, h, beq_self_eq_true]
    · rw [if_neg h, beq_false_of_ne h]
  | cons entry rest ih =>
    obtain ⟨name, old⟩ := entry
    rw [put.go]
    by_cases hn : name = collection
    · subst hn
      rw [if_pos rfl, List.lookup_cons, List.lookup_cons]
      by_cases h : other = name
      · rw [if_pos h, h, beq_self_eq_true]
      · rw [if_neg h, beq_false_of_ne h]
    · rw [if_neg hn, List.lookup_cons, List.lookup_cons, ih]
      by_cases h : other = name
      · subst h
        rw [beq_self_eq_true]
        exact (if_neg hn).symm
      · rw [beq_false_of_ne h]

theorem get?_put (s : Store) (collection : String) (documents : List Document) (other : String) :
    (s.put collection documents).get? other =
      if other = collection then some documents else s.get? other :=
  lookup_put_go collection documents other s.collections

@[simp] theorem get?_empty (collection : String) : empty.get? collection = none := rfl

/-- The documents of a collection; one that is not there has none. -/
def documents (s : Store) (collection : String) : List Document := (s.get? collection).getD []

@[simp] theorem documents_empty (collection : String) : empty.documents collection = [] := rfl

@[simp] theorem documents_put_self (s : Store) (collection : String) (ds : List Document) :
    (s.put collection ds).documents collection = ds := by
  rw [documents, get?_put, if_pos rfl, Option.getD_some]

theorem documents_put_of_ne (s : Store) {collection other : String} (ds : List Document)
    (h : other ≠ collection) : (s.put collection ds).documents other = s.documents other := by
  rw [documents, get?_put, if_neg h, documents]

theorem documents_of_get? {s : Store} {collection : String} {ds : List Document}
    (h : s.get? collection = some ds) : s.documents collection = ds := by
  rw [documents, h, Option.getD_some]

theorem get?_cases (s : Store) (collection : String) :
    s.get? collection = none ∧ s.documents collection = [] ∨
      s.get? collection = some (s.documents collection) := by
  unfold documents
  cases s.get? collection with
  | none => exact Or.inl ⟨rfl, rfl⟩
  | some ds => exact Or.inr rfl

/-- A collection with documents is there. -/
theorem get?_of_ne_nil {s : Store} {collection : String} (h : s.documents collection ≠ []) :
    s.get? collection = some (s.documents collection) :=
  (s.get?_cases collection).resolve_left fun hnil => h hnil.2

end Store

/-! ## 2. The first document that satisfies a query -/

namespace Query

/-- The document is the first that satisfies the query: those before it do not. -/
structure First (query : Document) (before : List Document) (d : Document) : Prop where
  passed : ∀ other ∈ before, holds other query = .ok false
  found : holds d query = .ok true

theorem first_of_findFirst {query : Document} {documents : List Document} {place : Nat}
    (h : findFirst query documents = .ok (some place)) :
    ∃ before d after, documents = before ++ d :: after ∧ before.length = place ∧
      First query before d := by
  induction documents generalizing place with
  | nil => cases h
  | cons d rest ih =>
    rw [findFirst] at h
    cases hd : holds d query with
    | error e => rw [hd] at h; cases h
    | ok held =>
      rw [hd] at h
      cases held with
      | true =>
        cases h
        exact ⟨[], d, rest, rfl, rfl, fun _ hmem => absurd hmem List.not_mem_nil, hd⟩
      | false =>
        cases hrest : findFirst query rest with
        | error e => rw [hrest] at h; cases h
        | ok found =>
          rw [hrest] at h
          cases found with
          | none => cases h
          | some n =>
            cases h
            obtain ⟨before, found, after, rfl, hlength, hfirst⟩ := ih hrest
            refine ⟨d :: before, found, after, rfl, by rw [List.length_cons, hlength], ?_,
              hfirst.found⟩
            intro other hother
            rcases List.mem_cons.mp hother with rfl | hother
            · exact hd
            · exact hfirst.passed other hother

theorem First.findFirst {query : Document} {before : List Document} {d : Document}
    (h : First query before d) (after : List Document) :
    findFirst query (before ++ d :: after) = .ok (some before.length) := by
  obtain ⟨hpassed, hfound⟩ := h
  induction before with
  | nil =>
    rw [List.nil_append, Query.findFirst, hfound]
    rfl
  | cons other rest ih =>
    obtain ⟨hother, hrest⟩ := List.forall_mem_cons.mp hpassed
    rw [List.cons_append, Query.findFirst, hother, ih hrest]
    rfl

/-- There is one first document. -/
theorem First.eq {query d d' : Document} {before after before' after' : List Document}
    (h : First query before d) (h' : First query before' d')
    (heq : before ++ d :: after = before' ++ d' :: after') : d = d' := by
  have hplace := h'.findFirst after'
  rw [← heq, h.findFirst after] at hplace
  have hlength : before.length = before'.length := Option.some.inj (Except.ok.inj hplace)
  exact (List.cons.inj (List.append_inj heq hlength).2).1

theorem findFirst_of_forall {query : Document} {documents : List Document}
    (h : ∀ d ∈ documents, holds d query = .ok false) : findFirst query documents = .ok none := by
  induction documents with
  | nil => rfl
  | cons d rest ih =>
    obtain ⟨hd, hrest⟩ := List.forall_mem_cons.mp h
    rw [findFirst, hd, ih hrest]
    rfl

/-- A query that gives no error selects what it holds of. -/
theorem select_eq_filter {query : Document} {documents : List Document} {p : Document → Bool}
    (h : ∀ d ∈ documents, holds d query = .ok (p d)) :
    select id query documents = .ok (documents.filter p) := by
  induction documents with
  | nil => rfl
  | cons d rest ih =>
    obtain ⟨hd, hrest⟩ := List.forall_mem_cons.mp h
    rw [select, id, hd, ih hrest, List.filter_cons]
    cases p d <;> rfl

end Query

/-! ## 3. Single calls -/

namespace Store

/-- What a call that changes a collection does to its documents, and what it has checked. -/
inductive Step (collection : String) : StoreCall → List Document → List Document → Prop where
  | insert {document : Document} {ds : List Document}
      (hfresh : ∀ identity, document.get? storeIdentityKey = some identity →
        holdsIdentity identity ds = false) :
      Step collection (.insert collection document) ds (ds ++ [document])
  | update {query change : Document} {before after : List Document} {d changed : Document}
      (hfirst : Query.First query before d) (hchanged : applyUpdate change d = .ok changed) :
      Step collection (.update collection query change) (before ++ d :: after)
        (before ++ changed :: after)
  | delete {query : Document} {before after : List Document} {d : Document}
      (hfirst : Query.First query before d) :
      Step collection (.delete collection query) (before ++ d :: after) (before ++ after)

theorem insert_eq_ok {s s' : Store} {collection : String} {document : Document}
    (h : s.insert collection document = .ok s') :
    ∃ ds, Step collection (.insert collection document) (s.documents collection) ds ∧
      s' = s.put collection ds := by
  unfold insert at h
  dsimp only at h
  cases hid : document.get? storeIdentityKey with
  | none =>
    rw [hid] at h
    cases h
    refine ⟨_, Step.insert (fun identity hi => ?_), rfl⟩
    rw [hid] at hi
    cases hi
  | some identity =>
    rw [hid] at h
    dsimp only at h
    split at h
    · cases h
    · rename_i hfresh
      cases h
      refine ⟨_, Step.insert (fun other ho => ?_), rfl⟩
      rw [hid] at ho
      cases ho
      exact Bool.eq_false_iff.mpr hfresh

theorem update_eq_ok {s s' : Store} {collection : String} {query change : Document} {found : Bool}
    (h : s.update collection query change = .ok (found, s')) :
    found = false ∧ s' = s ∨
      found = true ∧ ∃ ds ds', s.get? collection = some ds ∧
        Step collection (.update collection query change) ds ds' ∧ s' = s.put collection ds' := by
  unfold update at h
  split at h
  · cases h
    exact Or.inl ⟨rfl, rfl⟩
  · rename_i ds hds
    split at h
    · cases h
    · cases h
      exact Or.inl ⟨rfl, rfl⟩
    · rename_i place hplace
      obtain ⟨before, d, after, rfl, rfl, hfirst⟩ := Query.first_of_findFirst hplace
      split at h
      · cases h
      · rename_i changed hchanged
        rw [List.getElem?_append_right (Nat.le_refl _), Nat.sub_self, List.getElem?_cons_zero,
          Option.getD_some] at hchanged
        cases h
        refine Or.inr ⟨rfl, _, _, hds, .update hfirst hchanged, ?_⟩
        rw [List.set_append_right _ _ (Nat.le_refl _), Nat.sub_self, List.set_cons_zero]

theorem delete_eq_ok {s s' : Store} {collection : String} {query : Document} {found : Bool}
    (h : s.delete collection query = .ok (found, s')) :
    found = false ∧ s' = s ∨
      found = true ∧ ∃ ds ds', s.get? collection = some ds ∧
        Step collection (.delete collection query) ds ds' ∧ s' = s.put collection ds' := by
  unfold delete at h
  split at h
  · cases h
    exact Or.inl ⟨rfl, rfl⟩
  · rename_i ds hds
    split at h
    · cases h
    · cases h
      exact Or.inl ⟨rfl, rfl⟩
    · rename_i place hplace
      obtain ⟨before, d, after, rfl, rfl, hfirst⟩ := Query.first_of_findFirst hplace
      cases h
      refine Or.inr ⟨rfl, _, _, hds, .delete hfirst, ?_⟩
      rw [List.eraseIdx_append_of_length_le (Nat.le_refl _), Nat.sub_self, List.eraseIdx_zero,
        List.tail_cons]

/-- A query that gives no error finds the documents that it holds of, and counts them all. -/
theorem find_eq {s : Store} {collection : String} {query : Document} {p : Document → Bool}
    (h : ∀ d ∈ s.documents collection, Query.holds d query = .ok (p d)) (skip : Nat)
    (limit : Option Nat) :
    s.find collection query skip limit =
      .ok ⟨page skip limit ((s.documents collection).filter p),
        some ((s.documents collection).filter p).length⟩ := by
  unfold find
  rcases s.get?_cases collection with ⟨hget, hds⟩ | hget
  · rw [hget, hds]
    cases limit <;> simp [page]
  · rw [hget]
    dsimp only
    rw [Query.select_eq_filter h]

/-- Asked for one document, a store gives the first. -/
theorem find_of_first {s : Store} {collection : String} {query : Document} {p : Document → Bool}
    (h : ∀ d ∈ s.documents collection, Query.holds d query = .ok (p d))
    {before after : List Document} {d : Document}
    (hds : s.documents collection = before ++ d :: after) (hfirst : Query.First query before d) :
    ∃ total, s.find collection query 0 (some 1) = .ok ⟨[d], total⟩ := by
  have hfind := find_eq h 0 (some 1)
  rw [hds] at h hfind
  have hpassed : before.filter p = [] := by
    refine List.filter_eq_nil_iff.mpr fun other hother hp => ?_
    have hholds := (h other (List.mem_append_left _ hother)).symm.trans (hfirst.passed other hother)
    rw [hp] at hholds
    cases hholds
  have hd : p d = true := by
    have hmem : d ∈ before ++ d :: after := List.mem_append_right _ List.mem_cons_self
    exact Except.ok.inj ((h d hmem).symm.trans hfirst.found)
  rw [List.filter_append, hpassed, List.nil_append, List.filter_cons, if_pos hd] at hfind
  exact ⟨_, hfind⟩

theorem find_of_forall {s : Store} {collection : String} {query : Document}
    (h : ∀ d ∈ s.documents collection, Query.holds d query = .ok false) (skip : Nat)
    (limit : Option Nat) : ∃ total, s.find collection query skip limit = .ok ⟨[], total⟩ := by
  have hfind := find_eq h skip limit
  have hnone : (s.documents collection).filter (fun _ => false) = [] :=
    List.filter_eq_nil_iff.mpr fun _ _ => Bool.false_ne_true
  have hempty : page skip limit ([] : List Document) = [] := by cases limit <;> simp [page]
  rw [hnone, hempty] at hfind
  exact ⟨_, hfind⟩

/-- An update does to the first document what it does to it alone, and fails as it does. -/
theorem update_eq_of_first {s : Store} {collection : String} {query : Document}
    {before after : List Document} {d : Document}
    (hds : s.documents collection = before ++ d :: after) (hfirst : Query.First query before d)
    (change : Document) :
    s.update collection query change =
      match applyUpdate change d with
      | .ok changed => .ok (true, s.put collection (before ++ changed :: after))
      | .error fault => .error (.invalidDocument fault) := by
  have hget := get?_of_ne_nil (hds ▸ List.append_ne_nil_of_right_ne_nil _ (List.cons_ne_nil _ _))
  unfold update
  rw [hget, hds]
  dsimp only
  rw [hfirst.findFirst after]
  dsimp only
  rw [List.getElem?_append_right (Nat.le_refl _), Nat.sub_self, List.getElem?_cons_zero,
    Option.getD_some]
  cases applyUpdate change d with
  | error fault => rfl
  | ok changed =>
    dsimp only
    rw [List.set_append_right _ _ (Nat.le_refl _), Nat.sub_self, List.set_cons_zero]

theorem update_of_first {s : Store} {collection : String} {query change : Document}
    {before after : List Document} {d changed : Document}
    (hds : s.documents collection = before ++ d :: after) (hfirst : Query.First query before d)
    (hchanged : applyUpdate change d = .ok changed) :
    s.update collection query change =
      .ok (true, s.put collection (before ++ changed :: after)) := by
  rw [update_eq_of_first hds hfirst, hchanged]

theorem update_of_forall {s : Store} {collection : String} {query : Document}
    (h : ∀ d ∈ s.documents collection, Query.holds d query = .ok false) (change : Document) :
    s.update collection query change = .ok (false, s) := by
  unfold update
  rcases s.get?_cases collection with ⟨hget, -⟩ | hget
  · rw [hget]
  · rw [hget]
    dsimp only
    rw [Query.findFirst_of_forall h]

theorem delete_of_first {s : Store} {collection : String} {query : Document}
    {before after : List Document} {d : Document}
    (hds : s.documents collection = before ++ d :: after) (hfirst : Query.First query before d) :
    s.delete collection query = .ok (true, s.put collection (before ++ after)) := by
  have hget := get?_of_ne_nil (hds ▸ List.append_ne_nil_of_right_ne_nil _ (List.cons_ne_nil _ _))
  unfold delete
  rw [hget, hds]
  dsimp only
  rw [hfirst.findFirst after]
  dsimp only
  rw [List.eraseIdx_append_of_length_le (Nat.le_refl _), Nat.sub_self, List.eraseIdx_zero,
    List.tail_cons]

theorem delete_of_forall {s : Store} {collection : String} {query : Document}
    (h : ∀ d ∈ s.documents collection, Query.holds d query = .ok false) :
    s.delete collection query = .ok (false, s) := by
  unfold delete
  rcases s.get?_cases collection with ⟨hget, -⟩ | hget
  · rw [hget]
  · rw [hget]
    dsimp only
    rw [Query.findFirst_of_forall h]

theorem service_update_of_first {s : Store} {collection : String} {query change : Document}
    {before after : List Document} {d changed : Document}
    (hds : s.documents collection = before ++ d :: after) (hfirst : Query.First query before d)
    (hchanged : applyUpdate change d = .ok changed) :
    (service (.update collection query change) s).2 =
      s.put collection (before ++ changed :: after) := by
  rw [service, update_of_first hds hfirst hchanged]
  rfl

/-- **A call leaves the store as it is, or makes one step in one collection.** -/
theorem step_service (call : StoreCall) (s : Store) :
    (service call s).2 = s ∨
      ∃ collection ds, Step collection call (s.documents collection) ds ∧
        (service call s).2 = s.put collection ds := by
  cases call with
  | find collection query skip limit => exact Or.inl rfl
  | insert collection document =>
    cases h : s.insert collection document with
    | error e => exact Or.inl (by rw [service, h]; rfl)
    | ok s' =>
      obtain ⟨ds, hstep, rfl⟩ := insert_eq_ok h
      exact Or.inr ⟨collection, ds, hstep, by rw [service, h]; rfl⟩
  | update collection query change =>
    cases h : s.update collection query change with
    | error e => exact Or.inl (by rw [service, h]; rfl)
    | ok result =>
      obtain ⟨found, s'⟩ := result
      rcases update_eq_ok h with ⟨-, rfl⟩ | ⟨-, ds, ds', hds, hstep, rfl⟩
      · exact Or.inl (by rw [service, h]; rfl)
      · rw [← documents_of_get? hds] at hstep
        exact Or.inr ⟨collection, ds', hstep, by rw [service, h]; rfl⟩
  | delete collection query =>
    cases h : s.delete collection query with
    | error e => exact Or.inl (by rw [service, h]; rfl)
    | ok result =>
      obtain ⟨found, s'⟩ := result
      rcases delete_eq_ok h with ⟨-, rfl⟩ | ⟨-, ds, ds', hds, hstep, rfl⟩
      · exact Or.inl (by rw [service, h]; rfl)
      · rw [← documents_of_get? hds] at hstep
        exact Or.inr ⟨collection, ds', hstep, by rw [service, h]; rfl⟩

/-! ## 4. Runs -/

/-- The store after calls, one after another. -/
def after (s : Store) (calls : List StoreCall) : Store :=
  calls.foldl (fun s call => (service call s).2) s

theorem after_append (s : Store) (calls others : List StoreCall) :
    s.after (calls ++ others) = (s.after calls).after others :=
  List.foldl_append

/-- What holds of the documents of every collection, and is kept by every step, holds after any
run. -/
theorem after_induction {P : List Document → Prop} {calls : List StoreCall}
    (hempty : P []) (hstep : ∀ call ∈ calls, ∀ collection ds ds', P ds →
      Step collection call ds ds' → P ds') (collection : String) :
    P ((empty.after calls).documents collection) := by
  suffices h : ∀ s : Store, (∀ name, P (s.documents name)) → ∀ name,
      P ((s.after calls).documents name) from h empty (fun _ => hempty) collection
  induction calls with
  | nil => exact fun s hs => hs
  | cons call rest ih =>
    intro s hs
    refine ih (fun other hother => hstep other (List.mem_cons_of_mem _ hother)) _ fun name => ?_
    show P ((service call s).2.documents name)
    rcases step_service call s with heq | ⟨changed, ds, hds, heq⟩
    · rw [heq]
      exact hs name
    · rw [heq]
      by_cases hname : name = changed
      · subst hname
        rw [documents_put_self]
        exact hstep call List.mem_cons_self name _ ds (hs name) hds
      · rw [documents_put_of_ne s ds hname]
        exact hs name

end Store

end Dossier
