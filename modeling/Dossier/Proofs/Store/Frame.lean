/-
# What a call leaves alone

A call that fails, or that finds nothing to do, leaves the whole store as it is.  One that succeeds
touches a single document of a single collection: an insertion adds its document at the end, an
update puts another document in the place of the first that satisfies its query, and a deletion
takes that one out (`Store.Framed`).

An update and a deletion stop at the first document that satisfies the query, while a search looks
at all of them and fails if one of them makes the query fail.  So where a search succeeds, it has
looked at every document that the others look at: the first document that it lists is the one that
they act on (`exists_matches_of_find`).

Main statement: `Store.framed`.
-/
import Dossier.Proofs.Query.Meaning
import Dossier.Proofs.Store.Calls

namespace Dossier

/-! ## 1. What a search lists first -/

namespace Query

/-- A selection goes through all items; each is kept if the query holds of it. -/
theorem select_cons_eq_ok_iff {query d : Document} {rest selected : List Document} :
    select id query (d :: rest) = .ok selected ↔
      ∃ held more, holds d query = .ok held ∧ select id query rest = .ok more ∧
        selected = if held then d :: more else more := by
  rw [select, id]
  cases hd : holds d query with
  | error e => exact iff_of_false (by rintro ⟨⟩) (by rintro ⟨held, more, ⟨⟩, -⟩)
  | ok held =>
    cases hrest : select id query rest with
    | error e => exact iff_of_false (by rintro ⟨⟩) (by rintro ⟨held, more, -, ⟨⟩, -⟩)
    | ok more =>
      constructor
      · intro h
        exact ⟨held, more, rfl, rfl, (Except.ok.inj h).symm⟩
      · rintro ⟨_, _, ⟨⟩, ⟨⟩, rfl⟩
        rfl

theorem holds_of_select_nil {query : Document} {documents : List Document}
    (h : select id query documents = .ok []) : ∀ d ∈ documents, holds d query = .ok false := by
  induction documents with
  | nil => exact fun d hd => absurd hd List.not_mem_nil
  | cons d rest ih =>
    obtain ⟨held, more, hd, hrest, hselected⟩ := select_cons_eq_ok_iff.mp h
    cases held with
    | true => cases hselected
    | false =>
      cases hselected
      exact List.forall_mem_cons.mpr ⟨hd, ih hrest⟩

/-- **What a selection lists first is the first document that satisfies the query.** -/
theorem first_of_select {query d : Document} {documents others : List Document}
    (h : select id query documents = .ok (d :: others)) :
    ∃ before after, documents = before ++ d :: after ∧ First query before d := by
  induction documents with
  | nil => cases h
  | cons head rest ih =>
    obtain ⟨held, more, hhead, hrest, hselected⟩ := select_cons_eq_ok_iff.mp h
    cases held with
    | true =>
      cases hselected
      exact ⟨[], rest, rfl, fun _ hmem => absurd hmem List.not_mem_nil, hhead⟩
    | false =>
      cases hselected
      obtain ⟨before, after, rfl, hfirst⟩ := ih hrest
      exact ⟨head :: before, after, rfl, List.forall_mem_cons.mpr ⟨hhead, hfirst.passed⟩,
        hfirst.found⟩

end Query

/-! ## 2. What a call may change -/

/-- The call is a search, or it failed, or it found nothing to change. -/
def StoreCall.Idle : (call : StoreCall) → call.Outcome → Prop
  | .find .., _ => True
  | .insert .., outcome => ∃ e, outcome = .error e
  | .update .., outcome => (∃ e, outcome = .error e) ∨ outcome = .ok false
  | .delete .., outcome => (∃ e, outcome = .error e) ∨ outcome = .ok false

namespace Store

/-- The second store has the given documents in the collection, and is the first one elsewhere. -/
structure ChangesTo (s : Store) (collection : String) (documents : List Document) (s' : Store) :
    Prop where
  here : s'.get? collection = some documents
  elsewhere : ∀ other, other ≠ collection → s'.get? other = s.get? other

theorem changesTo_put (s : Store) (collection : String) (documents : List Document) :
    s.ChangesTo collection documents (s.put collection documents) where
  here := by rw [get?_put, if_pos rfl]
  elsewhere other hother := by rw [get?_put, if_neg hother]

/-- An update or a deletion by the query acts on this document: those before it do not satisfy the
query, and an update succeeds or fails as it does on the document. -/
structure ActsOn (s : Store) (collection : String) (query : Document) (before : List Document)
    (d : Document) (after : List Document) : Prop where
  here : s.get? collection = some (before ++ d :: after)
  first : Query.First query before d
  delete : s.delete collection query = .ok (true, s.put collection (before ++ after))
  update : ∀ change, s.update collection query change =
    match applyUpdate change d with
    | .ok changed => .ok (true, s.put collection (before ++ changed :: after))
    | .error fault => .error (.invalidDocument fault)

/-- An update or a deletion by the query finds no document. -/
structure Misses (s : Store) (collection : String) (query : Document) : Prop where
  delete : s.delete collection query = .ok (false, s)
  update : ∀ change, s.update collection query change = .ok (false, s)

theorem actsOn_of_first {s : Store} {collection : String} {query : Document}
    {before after : List Document} {d : Document}
    (hds : s.documents collection = before ++ d :: after) (hfirst : Query.First query before d) :
    s.ActsOn collection query before d after where
  here := by
    rw [← hds]
    exact get?_of_ne_nil (hds ▸ List.append_ne_nil_of_right_ne_nil _ (List.cons_ne_nil _ _))
  first := hfirst
  delete := delete_of_first hds hfirst
  update := update_eq_of_first hds hfirst

theorem misses_of_forall {s : Store} {collection : String} {query : Document}
    (h : ∀ d ∈ s.documents collection, Query.holds d query = .ok false) :
    s.Misses collection query where
  delete := delete_of_forall h
  update := update_of_forall h

/-- **A search shows what an update or a deletion would act on.**  It gives a page of all documents
that satisfy the query; the first of these is acted on, and if there is none, nothing is. -/
theorem exists_matches_of_find {s : Store} {collection : String} {query : Document} {skip : Nat}
    {limit : Option Nat} {found : Found} (h : s.find collection query skip limit = .ok found) :
    ∃ all, found = ⟨page skip limit all, some all.length⟩ ∧
      (all = [] → s.Misses collection query) ∧
      ∀ d others, all = d :: others → ∃ before after, s.ActsOn collection query before d after := by
  rcases s.get?_cases collection with ⟨hget, hds⟩ | hget
  · rw [find, hget] at h
    cases h
    refine ⟨[], ?_, fun _ => misses_of_forall ?_, fun _ _ h => nomatch h⟩
    · cases limit <;> simp [page]
    · rw [hds]
      exact fun d hd => absurd hd List.not_mem_nil
  · rw [find, hget] at h
    dsimp only at h
    cases hselected : Query.select id query (s.documents collection) with
    | error fault => rw [hselected] at h; cases h
    | ok selected =>
      rw [hselected] at h
      cases h
      refine ⟨selected, rfl, ?_, ?_⟩
      · rintro rfl
        exact misses_of_forall (Query.holds_of_select_nil hselected)
      · rintro d others rfl
        obtain ⟨before, after, hds, hfirst⟩ := Query.first_of_select hselected
        exact ⟨before, after, actsOn_of_first hds hfirst⟩

/-! ## 3. The frame of every call -/

/-- What every call does to the store, and what it leaves alone. -/
structure Framed (s : Store) : Prop where
  /-- A search, a failure and an update or deletion of nothing change nothing at all. -/
  idle : ∀ call, call.Idle (service call s).1 → (service call s).2 = s
  /-- An insertion that succeeds adds its document at the end of its collection. -/
  insert : ∀ collection document, (service (.insert collection document) s).1 = .ok () →
    s.ChangesTo collection (s.documents collection ++ [document])
      (service (.insert collection document) s).2
  /-- An update that succeeds puts the changed document in the place of the first that satisfies
  the query. -/
  update : ∀ collection query change, (service (.update collection query change) s).1 = .ok true →
    ∃ before d after changed, s.ActsOn collection query before d after ∧
      applyUpdate change d = .ok changed ∧
      s.ChangesTo collection (before ++ changed :: after)
        (service (.update collection query change) s).2
  /-- A deletion that succeeds takes out the first document that satisfies the query. -/
  delete : ∀ collection query, (service (.delete collection query) s).1 = .ok true →
    ∃ before d after, s.ActsOn collection query before d after ∧
      s.ChangesTo collection (before ++ after) (service (.delete collection query) s).2
  /-- What a search lists first is what an update or a deletion acts on. -/
  listed : ∀ collection query limit d others total,
    s.find collection query 0 limit = .ok ⟨d :: others, total⟩ →
      ∃ before after, s.ActsOn collection query before d after
  /-- If a search, allowed to list something, lists nothing, they find nothing either. -/
  missed : ∀ collection query limit total, limit ≠ some 0 →
    s.find collection query 0 limit = .ok ⟨[], total⟩ → s.Misses collection query

theorem service_eq_self_of_idle {s : Store} {call : StoreCall}
    (h : call.Idle (service call s).1) : (service call s).2 = s := by
  cases call with
  | find collection query skip limit => rfl
  | insert collection document =>
    rw [service] at h ⊢
    cases hinsert : s.insert collection document with
    | error e => rfl
    | ok s' =>
      rw [hinsert] at h
      obtain ⟨e, he⟩ := h
      cases he
  | update collection query change =>
    rw [service] at h ⊢
    cases hupdate : s.update collection query change with
    | error e => rfl
    | ok result =>
      obtain ⟨found, s'⟩ := result
      rw [hupdate] at h
      rcases update_eq_ok hupdate with ⟨-, rfl⟩ | ⟨rfl, -⟩
      · rfl
      · rcases h with ⟨e, he⟩ | he <;> cases he
  | delete collection query =>
    rw [service] at h ⊢
    cases hdelete : s.delete collection query with
    | error e => rfl
    | ok result =>
      obtain ⟨found, s'⟩ := result
      rw [hdelete] at h
      rcases delete_eq_ok hdelete with ⟨-, rfl⟩ | ⟨rfl, -⟩
      · rfl
      · rcases h with ⟨e, he⟩ | he <;> cases he

theorem changesTo_of_insert {s : Store} {collection : String} {document : Document}
    (h : (service (.insert collection document) s).1 = .ok ()) :
    s.ChangesTo collection (s.documents collection ++ [document])
      (service (.insert collection document) s).2 := by
  rw [service] at h ⊢
  cases hinsert : s.insert collection document with
  | error e => rw [hinsert] at h; cases h
  | ok s' =>
    obtain ⟨ds, hstep, rfl⟩ := insert_eq_ok hinsert
    cases hstep with
    | insert hfresh => exact s.changesTo_put collection _

theorem changesTo_of_update {s : Store} {collection : String} {query change : Document}
    (h : (service (.update collection query change) s).1 = .ok true) :
    ∃ before d after changed, s.ActsOn collection query before d after ∧
      applyUpdate change d = .ok changed ∧
      s.ChangesTo collection (before ++ changed :: after)
        (service (.update collection query change) s).2 := by
  rw [service] at h ⊢
  cases hupdate : s.update collection query change with
  | error e => rw [hupdate] at h; cases h
  | ok result =>
    obtain ⟨found, s'⟩ := result
    rw [hupdate] at h
    rcases update_eq_ok hupdate with ⟨rfl, -⟩ | ⟨-, ds, ds', hds, hstep, rfl⟩
    · cases h
    · cases hstep with
      | @update _ _ before after d changed hfirst hchanged =>
        exact ⟨before, d, after, changed, actsOn_of_first (documents_of_get? hds) hfirst, hchanged,
          s.changesTo_put collection _⟩

theorem changesTo_of_delete {s : Store} {collection : String} {query : Document}
    (h : (service (.delete collection query) s).1 = .ok true) :
    ∃ before d after, s.ActsOn collection query before d after ∧
      s.ChangesTo collection (before ++ after) (service (.delete collection query) s).2 := by
  rw [service] at h ⊢
  cases hdelete : s.delete collection query with
  | error e => rw [hdelete] at h; cases h
  | ok result =>
    obtain ⟨found, s'⟩ := result
    rw [hdelete] at h
    rcases delete_eq_ok hdelete with ⟨rfl, -⟩ | ⟨-, ds, ds', hds, hstep, rfl⟩
    · cases h
    · cases hstep with
      | @delete _ before after d hfirst =>
        exact ⟨before, d, after, actsOn_of_first (documents_of_get? hds) hfirst,
          s.changesTo_put collection _⟩

/-- The first page is empty only if there is nothing to show, unless its limit is zero. -/
theorem page_eq_nil_iff {α : Type} {limit : Option Nat} (h : limit ≠ some 0) (items : List α) :
    page 0 limit items = [] ↔ items = [] := by
  cases limit with
  | none => rfl
  | some n =>
    rw [page, List.drop_zero, List.take_eq_nil_iff, or_iff_right fun hn => h (congrArg some hn)]

/-- A first page with something on it begins with what comes first. -/
theorem exists_cons_of_page_eq_cons {α : Type} {limit : Option Nat} {items others : List α} {a : α}
    (h : page 0 limit items = a :: others) : ∃ more, items = a :: more := by
  have hhead : (page 0 limit items).head? = some a := by rw [h, List.head?_cons]
  cases items with
  | nil => cases limit <;> simp [page] at h
  | cons first more =>
    cases limit with
    | none => exact ⟨more, by rw [Option.some.inj hhead]⟩
    | some n =>
      cases n with
      | zero => cases h
      | succ n => exact ⟨more, by rw [Option.some.inj hhead]⟩

/-- **Every call keeps to its frame**, in every store. -/
theorem framed (s : Store) : s.Framed where
  idle _ := service_eq_self_of_idle
  insert _ _ := changesTo_of_insert
  update _ _ _ := changesTo_of_update
  delete _ _ := changesTo_of_delete
  listed collection query limit d others total h := by
    obtain ⟨all, hfound, -, hacts⟩ := exists_matches_of_find h
    obtain ⟨more, hall⟩ := exists_cons_of_page_eq_cons (Found.mk.inj hfound).1.symm
    exact hacts d more hall
  missed collection query limit total hlimit h := by
    obtain ⟨all, hfound, hmisses, -⟩ := exists_matches_of_find h
    exact hmisses ((page_eq_nil_iff hlimit all).mp (Found.mk.inj hfound).1.symm)

/-! ## 4. Three people -/

namespace Example

/-- Satisfied by the second and the third of the people. -/
def adults : Document := [("age", .document [("$gte", .int32 20)])]

def people : Store :=
  empty.put "people"
    [[("_id", .string "a"), ("age", .int32 10)], [("_id", .string "b"), ("age", .int32 20)],
      [("_id", .string "c"), ("age", .int32 30)]]

/-- An update whose first operator could be applied, and whose second is refused. -/
def halfRefused : Document := [("$set", .document [("age", .int32 21)]), ("$inc", .null)]

theorem holds_adults (d : Document) : Query.holds d adults =
    .ok (Query.isOrder (Query.order (Path.resolve (Path.segments "age") d) (.int32 20)) .gt .eq) :=
  Query.holds_operator d rfl rfl (.int32 20)

/-- The first of the people is none of them, and the second is. -/
theorem first_adult : Query.First adults [[("_id", .string "a"), ("age", .int32 10)]]
    [("_id", .string "b"), ("age", .int32 20)] :=
  ⟨List.forall_mem_singleton.mpr (holds_adults _), holds_adults _⟩

/-- An update that is refused half way changes nobody, and a deletion takes out whom a search lists
first. -/
theorem framed_people :
    (service (.update "people" adults halfRefused) people).2 = people ∧
      (∃ before after, people.ActsOn "people" adults before
        [("_id", .string "b"), ("age", .int32 20)] after) ∧
      ∃ before d after, people.ActsOn "people" adults before d after ∧
        people.ChangesTo "people" (before ++ after)
          (service (.delete "people" adults) people).2 := by
  have hds : people.documents "people" = [[("_id", .string "a"), ("age", .int32 10)]] ++
      [("_id", .string "b"), ("age", .int32 20)] ::
        [[("_id", .string "c"), ("age", .int32 30)]] := rfl
  have hupdate : (service (.update "people" adults halfRefused) people).1 =
      .error (.invalidDocument (.updateOperator "$inc")) := by
    rw [service, update_eq_of_first hds first_adult]
    rfl
  have hdelete : (service (.delete "people" adults) people).1 = .ok true := by
    rw [service, delete_of_first hds first_adult]
    rfl
  obtain ⟨_, hfind⟩ := find_of_first (fun d _ => holds_adults d) hds first_adult
  exact ⟨(framed people).idle _ (Or.inl ⟨_, hupdate⟩),
    (framed people).listed _ _ _ _ _ _ hfind, (framed people).delete _ _ hdelete⟩

end Example

end Store

end Dossier
