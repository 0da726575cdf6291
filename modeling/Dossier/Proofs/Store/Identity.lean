/-
# Identities in a store

No two documents of a collection have the same identity, and no update touches the identity of a
document, as long as no update writes *below* the key of the identity.  An update refuses the path
`_id` itself, but a path such as `_id.x` leads through the identity, and the write makes a document
of whatever is there.

The uniqueness is checked in one operation and has to be kept by another: an insertion compares
the new document with those that are there, and an update must not bring two identities
together later.  So the invariant of runs (`Distinct`) needs the frame of updates
(`identity_applyUpdate`).

* `identitiesKept_iff_harmless`: the runs whose updates are of some class keep identities exactly
  if each update of the class is refused or writes nowhere below the identity.
* `same_identity_twice`: a run after which two documents have the same identity.
-/
import Dossier.Proofs.Bson.Sameness
import Dossier.Proofs.Query.Path
import Dossier.Proofs.Store.Calls
import Dossier.Proofs.Store.Writes

namespace Dossier

/-! ## 1. Updates that spare the identity -/

/-- The path leads below the key of the identity. -/
def Path.EntersIdentity (path : String) : Prop :=
  ∃ next rest, Path.segments path = storeIdentityKey :: next :: rest

theorem Path.entersIdentity_iff {path : String} :
    EntersIdentity path ↔
      (segments path).head? = some storeIdentityKey ∧ 2 ≤ (segments path).length := by
  unfold EntersIdentity
  match segments path with
  | [] => simp
  | [first] => simp
  | first :: next :: rest => simp

instance (path : String) : Decidable (Path.EntersIdentity path) :=
  decidable_of_iff' _ Path.entersIdentity_iff

example : Path.EntersIdentity "_id." := by decide
example : ¬ Path.EntersIdentity "_idx.y" := by decide

namespace Store

/-- The update writes nowhere below the identity. -/
def Spares (change : Document) : Prop :=
  ∀ path ∈ (writes change).keys, ¬ Path.EntersIdentity path

instance (change : Document) : Decidable (Spares change) :=
  inferInstanceAs (Decidable (∀ path ∈ (writes change).keys, ¬ Path.EntersIdentity path))

/-- The update spares the identity, unless it is refused anyway. -/
def Harmless (change : Document) : Prop := Settable change → Spares change

/-- A path that is neither the identity nor below it begins with another key. -/
theorem exists_segments_of_spared {path : String} (hne : path ≠ storeIdentityKey)
    (hspared : ¬ Path.EntersIdentity path) :
    ∃ first rest, Path.segments path = first :: rest ∧ first ≠ storeIdentityKey := by
  cases hsegments : Path.segments path with
  | nil => exact absurd hsegments (Path.segments_ne_nil path)
  | cons first rest =>
    refine ⟨first, rest, rfl, fun hfirst => ?_⟩
    cases rest with
    | nil => exact hne (hfirst ▸ (Path.segments_eq_singleton_iff.mp hsegments).1)
    | cons next more => exact hspared ⟨next, more, hfirst ▸ hsegments⟩

/-- **Writing at spared paths leaves the identity as it is.** -/
theorem identity_writeAll {fields : Document}
    (h : ∀ path ∈ fields.keys, path ≠ storeIdentityKey ∧ ¬ Path.EntersIdentity path)
    (d : Document) : (writeAll fields d).get? storeIdentityKey = d.get? storeIdentityKey := by
  induction fields generalizing d with
  | nil => rfl
  | cons entry rest ih =>
    obtain ⟨path, value⟩ := entry
    obtain ⟨⟨hne, hspared⟩, hrest⟩ := List.forall_mem_cons.mp h
    obtain ⟨first, more, hsegments, hfirst⟩ := exists_segments_of_spared hne hspared
    rw [writeAll_cons, ih hrest, hsegments, Path.get?_set_of_ne more value d hfirst]

theorem identity_applyUpdate {change d changed : Document} (hharmless : Harmless change)
    (h : applyUpdate change d = .ok changed) :
    changed.get? storeIdentityKey = d.get? storeIdentityKey := by
  obtain ⟨hsettable, rfl⟩ := applyUpdate_eq_ok_iff.mp h
  exact identity_writeAll (fun path hpath =>
    ⟨hsettable.ne_of_mem_writes hpath, hharmless hsettable path hpath⟩) d

/-! ## 2. Updates that do not

One write below the identity is enough to leave a document there, and no later write of the same
update takes it away: only a write at the identity itself could, and that one is refused. -/

/-- The identity is a document. -/
def HasNestedIdentity (d : Document) : Prop :=
  ∃ inner, d.get? storeIdentityKey = some (.document inner)

theorem hasNestedIdentity_set {path : String} (hne : path ≠ storeIdentityKey) (value : Bson)
    {d : Document} (h : Path.EntersIdentity path ∨ HasNestedIdentity d) :
    HasNestedIdentity (Path.set (Path.segments path) value d) := by
  by_cases henters : Path.EntersIdentity path
  · obtain ⟨next, rest, hsegments⟩ := henters
    rw [hsegments]
    exact Path.exists_document_of_set storeIdentityKey next rest value d
  · obtain ⟨first, rest, hsegments, hfirst⟩ := exists_segments_of_spared hne henters
    obtain ⟨inner, hinner⟩ := h.resolve_left henters
    exact ⟨inner, by rw [hsegments, Path.get?_set_of_ne rest value d hfirst, hinner]⟩

theorem hasNestedIdentity_writeAll {fields d : Document}
    (hne : ∀ path ∈ fields.keys, path ≠ storeIdentityKey)
    (h : (∃ path ∈ fields.keys, Path.EntersIdentity path) ∨ HasNestedIdentity d) :
    HasNestedIdentity (writeAll fields d) := by
  induction fields generalizing d with
  | nil =>
    rcases h with ⟨path, hpath, -⟩ | hd
    · exact absurd hpath List.not_mem_nil
    · exact hd
  | cons entry rest ih =>
    obtain ⟨path, value⟩ := entry
    obtain ⟨hpath, hrest⟩ := List.forall_mem_cons.mp hne
    refine ih hrest ?_
    rcases h with ⟨other, hother, henters⟩ | hd
    · rcases List.mem_cons.mp hother with rfl | hother
      · exact Or.inr (hasNestedIdentity_set hpath value (Or.inl henters))
      · exact Or.inl ⟨other, hother, henters⟩
    · exact Or.inr (hasNestedIdentity_set hpath value (Or.inr hd))

theorem hasNestedIdentity_applyUpdate {change d changed : Document} (hnot : ¬ Spares change)
    (h : applyUpdate change d = .ok changed) : HasNestedIdentity changed := by
  obtain ⟨hsettable, rfl⟩ := applyUpdate_eq_ok_iff.mp h
  unfold Spares at hnot
  push Not at hnot
  exact hasNestedIdentity_writeAll (fun _ => hsettable.ne_of_mem_writes) (Or.inl hnot)

/-! ## 3. Stores -/

/-- The identities of the documents of a collection, in order; a document may have none. -/
def identities (s : Store) (collection : String) : List (Option Bson) :=
  (s.documents collection).map fun d => d.get? storeIdentityKey

theorem Step.identities_eq {collection name : String} {query change : Document}
    {ds ds' : List Document} (hharmless : Harmless change)
    (h : Step name (.update collection query change) ds ds') :
    (ds'.map fun d => d.get? storeIdentityKey) = ds.map fun d => d.get? storeIdentityKey := by
  cases h with
  | update hfirst hchanged =>
    rw [List.map_append, List.map_append, List.map_cons, List.map_cons,
      identity_applyUpdate hharmless hchanged]

/-- **A harmless update changes, adds and removes no identity**, in its collection or another. -/
theorem identities_update {change : Document} (hharmless : Harmless change) (s : Store)
    (collection : String) (query : Document) (name : String) :
    (service (.update collection query change) s).2.identities name = s.identities name := by
  rcases step_service (.update collection query change) s with heq | ⟨own, ds, hstep, heq⟩
  · rw [heq]
  · rw [heq]
    unfold identities
    by_cases hname : name = own
    · subst hname
      rw [documents_put_self]
      exact hstep.identities_eq hharmless
    · rw [documents_put_of_ne s ds hname]

/-- The identities, where both are there, are not the same. -/
def Unlike (a b : Option Bson) : Prop := ∀ x ∈ a, ∀ y ∈ b, x.same y = false

/-- The invariant of a collection: an identity is unlike those after it.  As keys stand once, it is
unlike those before it too. -/
structure Distinct (ds : List Document) : Prop where
  wellKeyed : ∀ d ∈ ds, d.WellKeyed
  unlike : (ds.map fun d => d.get? storeIdentityKey).Pairwise Unlike

theorem distinct_nil : Distinct [] := ⟨fun _ h => absurd h List.not_mem_nil, List.Pairwise.nil⟩

end Store

/-- The documents that a call brings have each key once, as documents do. -/
def StoreCall.WellKeyed : StoreCall → Prop
  | .insert _ document => document.WellKeyed
  | .update _ _ change => change.WellKeyed
  | _ => True

/-- The call is no update, or one of the class. -/
def StoreCall.UpdatesBy (allowed : Document → Prop) : StoreCall → Prop
  | .update _ _ change => allowed change
  | _ => True

namespace Store

theorem wellKeyed_writeAll {fields d : Document} (hfields : ∀ entry ∈ fields, entry.2.WellKeyed)
    (hd : d.WellKeyed) : (writeAll fields d).WellKeyed := by
  induction fields generalizing d with
  | nil => exact hd
  | cons entry rest ih =>
    obtain ⟨hvalue, hrest⟩ := List.forall_mem_cons.mp hfields
    exact ih hrest (Document.wellKeyed_set _ hvalue hd)

theorem wellKeyed_applyUpdate {change d changed : Document} (hchange : change.WellKeyed)
    (hd : d.WellKeyed) (h : applyUpdate change d = .ok changed) : changed.WellKeyed := by
  obtain ⟨-, rfl⟩ := applyUpdate_eq_ok_iff.mp h
  refine wellKeyed_writeAll (fun entry hentry => ?_) hd
  obtain ⟨op, fields, hmem, hfields⟩ := exists_of_mem_writes hentry
  have hwell : Document.WellKeyed fields := hchange.value hmem
  exact hwell.value hfields

/-- **Every step of a harmless call keeps the identities of its collection apart.** -/
theorem Step.distinct {collection : String} {call : StoreCall} {ds ds' : List Document}
    (hstep : Step collection call ds ds') (hwell : call.WellKeyed)
    (hharmless : call.UpdatesBy Harmless) (h : Distinct ds) : Distinct ds' := by
  cases hstep with
  | @insert document _ hfresh =>
    refine ⟨fun d hd => ?_, ?_⟩
    · rcases List.mem_append.mp hd with hd | hd
      · exact h.wellKeyed d hd
      · exact List.mem_singleton.mp hd ▸ hwell
    · rw [List.map_append]
      refine List.pairwise_append.mpr ⟨h.unlike, List.pairwise_singleton _ _, ?_⟩
      intro a ha b hb x hx y hy
      obtain ⟨d, hd, rfl⟩ := List.mem_map.mp ha
      obtain ⟨e, he, rfl⟩ := List.mem_map.mp hb
      cases List.mem_singleton.mp he
      have hno := List.any_eq_false.mp (hfresh y hy) d hd
      rw [Option.mem_def.mp hx] at hno
      exact Bool.eq_false_iff.mpr hno
  | @update query change before after d changed hfirst hchanged =>
    refine ⟨fun e he => ?_, ?_⟩
    · rcases List.mem_append.mp he with he | he
      · exact h.wellKeyed e (List.mem_append_left _ he)
      · rcases List.mem_cons.mp he with rfl | he
        · exact wellKeyed_applyUpdate hwell
            (h.wellKeyed d (List.mem_append_right _ List.mem_cons_self)) hchanged
        · exact h.wellKeyed e (List.mem_append_right _ (List.mem_cons_of_mem _ he))
    · have hstep : Step collection (.update collection query change) (before ++ d :: after)
          (before ++ changed :: after) := .update hfirst hchanged
      rw [hstep.identities_eq hharmless]
      exact h.unlike
  | @delete query before after d hfirst =>
    have hsub : (before ++ after).Sublist (before ++ d :: after) :=
      (List.sublist_cons_self d after).append_left before
    exact ⟨fun e he => h.wellKeyed e (hsub.subset he), h.unlike.sublist (hsub.map _)⟩

/-- No two documents of a collection have the same identity. -/
def UniqueIdentities (s : Store) : Prop :=
  ∀ (collection : String) (i j : Nat) (x y : Bson), i ≠ j →
    (s.identities collection)[i]? = some (some x) →
    (s.identities collection)[j]? = some (some y) → x.same y = false

theorem Distinct.wellKeyed_identity {ds : List Document} (h : Distinct ds) {i : Nat} {x : Bson}
    (hx : (ds.map fun d => d.get? storeIdentityKey)[i]? = some (some x)) : x.WellKeyed := by
  obtain ⟨d, hd, hdx⟩ := List.mem_map.mp (List.mem_of_getElem? hx)
  exact (h.wellKeyed d hd).value (Document.mem_of_get? hdx)

theorem Distinct.same_eq_false {ds : List Document} (h : Distinct ds) {i j : Nat} {x y : Bson}
    (hij : i < j) (hx : (ds.map fun d => d.get? storeIdentityKey)[i]? = some (some x))
    (hy : (ds.map fun d => d.get? storeIdentityKey)[j]? = some (some y)) :
    x.same y = false := by
  obtain ⟨hi, hxi⟩ := List.getElem?_eq_some_iff.mp hx
  obtain ⟨hj, hyj⟩ := List.getElem?_eq_some_iff.mp hy
  exact List.pairwise_iff_getElem.mp h.unlike i j hi hj hij x hxi y hyj

theorem uniqueIdentities_of_distinct {s : Store}
    (h : ∀ collection, Distinct (s.documents collection)) : s.UniqueIdentities := by
  intro collection i j x y hne hx hy
  rcases Nat.lt_or_gt_of_ne hne with hij | hji
  · exact (h collection).same_eq_false hij hx hy
  · rw [Bson.same_comm x y ((h collection).wellKeyed_identity hx)
      ((h collection).wellKeyed_identity hy)]
    exact (h collection).same_eq_false hji hy hx

theorem uniqueIdentities_after {calls : List StoreCall}
    (hcalls : ∀ call ∈ calls, call.WellKeyed ∧ call.UpdatesBy Harmless) :
    (empty.after calls).UniqueIdentities :=
  uniqueIdentities_of_distinct <| after_induction distinct_nil
    fun call hcall _ _ _ hds hstep => hstep.distinct (hcalls call hcall).1 (hcalls call hcall).2 hds

/-! ## 4. Runs that keep identities -/

/-- After the run no two documents of a collection have the same identity, and at no update of the
run did an identity change, come or go. -/
structure IdentitiesKept (calls : List StoreCall) : Prop where
  unique : (empty.after calls).UniqueIdentities
  updates : ∀ before collection query change rest,
    calls = before ++ .update collection query change :: rest → ∀ name,
      (empty.after (before ++ [.update collection query change])).identities name =
        (empty.after before).identities name

theorem identitiesKept_of_harmless {calls : List StoreCall}
    (hcalls : ∀ call ∈ calls, call.WellKeyed ∧ call.UpdatesBy Harmless) :
    IdentitiesKept calls := by
  refine ⟨uniqueIdentities_after hcalls, ?_⟩
  rintro before collection query change rest rfl name
  obtain ⟨-, hharmless⟩ := hcalls _ (List.mem_append_right _ List.mem_cons_self)
  rw [after_append]
  exact identities_update hharmless _ collection query name

/-- The run stores a document whose identity is null, and updates it. -/
def updatingRun (change : Document) : List StoreCall :=
  [.insert "" [(storeIdentityKey, .null)], .update "" [] change]

/-- An update that is not harmless makes another identity of null. -/
theorem not_identitiesKept_updatingRun {change : Document} (h : ¬ Harmless change) :
    ¬ IdentitiesKept (updatingRun change) := by
  obtain ⟨hsettable, hnot⟩ := Classical.not_imp.mp h
  -- Whether writes are refused does not depend on the document.
  obtain ⟨changed, hchanged⟩ : ∃ changed,
      applyUpdate change [(storeIdentityKey, .null)] = .ok changed :=
    ⟨_, applyUpdate_eq_ok_iff.mpr ⟨hsettable, rfl⟩⟩
  obtain ⟨inner, hinner⟩ := hasNestedIdentity_applyUpdate hnot hchanged
  let s := empty.after [.insert "" [(storeIdentityKey, .null)]]
  have hds : s.documents "" = [] ++ [(storeIdentityKey, .null)] :: [] := rfl
  have hfirst : Query.First [] [] [(storeIdentityKey, .null)] :=
    ⟨fun _ h => absurd h List.not_mem_nil, by rw [Query.holds]⟩
  have hservice := service_update_of_first hds hfirst hchanged
  intro hkept
  have heq : (service (.update "" [] change) s).2.identities "" = s.identities "" :=
    hkept.updates [.insert "" [(storeIdentityKey, .null)]] "" [] change [] rfl ""
  unfold identities at heq
  rw [hservice, documents_put_self, hds, List.nil_append, List.nil_append, List.map_singleton,
    List.map_singleton, hinner] at heq
  cases heq

/-- **When identities are kept.**  Let all updates be of a class.  Every run keeps identities
exactly if each update of the class is refused or writes nowhere below the identity. -/
theorem identitiesKept_iff_harmless (allowed : Document → Prop) :
    (∀ calls : List StoreCall, (∀ call ∈ calls, call.WellKeyed ∧ call.UpdatesBy allowed) →
      IdentitiesKept calls) ↔
    ∀ change : Document, change.WellKeyed → allowed change → Settable change → Spares change := by
  constructor
  · intro h change hwell hallowed
    by_contra hnot
    refine not_identitiesKept_updatingRun hnot (h _ ?_)
    refine List.forall_mem_cons.mpr ⟨⟨?_, trivial⟩, List.forall_mem_singleton.mpr ⟨hwell, hallowed⟩⟩
    exact ⟨fun _ hmem => absurd hmem List.not_mem_nil, trivial, trivial⟩
  · intro h calls hcalls
    refine identitiesKept_of_harmless fun call hcall => ?_
    obtain ⟨hwell, hallowed⟩ := hcalls call hcall
    cases call with
    | update collection query change => exact ⟨hwell, h change hwell hallowed⟩
    | _ => exact ⟨hwell, trivial⟩

/-- Paths that come close to the identity do no harm, nor does a path below it beside one that is
refused. -/
theorem identitiesKept_near :
    let near : Document := [("$set", .document [("_idx.y", .null), ("a._id.x", .int32 1)])]
    let refused : Document := [("$set", .document [("_id.x", .null), ("_id", .null)])]
    ∀ calls : List StoreCall,
      (∀ call ∈ calls, call.WellKeyed ∧ call.UpdatesBy fun change =>
        change = near ∨ change = refused) → IdentitiesKept calls := by
  intro near refused
  refine (identitiesKept_iff_harmless _).mpr fun change _ hchange hsettable => ?_
  rcases hchange with rfl | rfl
  · decide
  · have hkey : storeIdentityKey ∈ (writes refused).keys := by decide
    exact absurd rfl (hsettable.ne_of_mem_writes hkey)

/-- Two documents with the identities 1 and 2, each of which an update writes into. -/
def collidingCalls : List StoreCall :=
  [.insert "c" [("_id", .int32 1)], .insert "c" [("_id", .int32 2)],
    .update "c" [("_id", .int32 1)] [("$set", .document [("_id.x", .null)])],
    .update "c" [("_id", .int32 2)] [("$set", .document [("_id.x", .null)])]]

/-- **A path below the identity is not refused.**  Each update replaces an identity, and in the end
both documents have the same. -/
theorem same_identity_twice :
    (empty.after collidingCalls).identities "c" =
      [some (.document [("x", .null)]), some (.document [("x", .null)])] ∧
    ¬ (empty.after collidingCalls).UniqueIdentities := by
  let change : Document := [("$set", .document [("_id.x", .null)])]
  let overwritten : Document := [("_id", .document [("x", .null)])]
  let s := empty.after [.insert "c" [("_id", .int32 1)], .insert "c" [("_id", .int32 2)]]
  have hone : Query.First [("_id", .int32 1)] [] [("_id", .int32 1)] := by
    refine ⟨fun _ hmem => absurd hmem List.not_mem_nil, ?_⟩
    rw [Query.holds, Query.holds, Query.holdsKey]
    rfl
  have htwo : Query.First [("_id", .int32 2)] [overwritten] [("_id", .int32 2)] := by
    refine ⟨List.forall_mem_singleton.mpr ?_, ?_⟩
    · rw [Query.holds, Query.holds, Query.holdsKey]
      rfl
    · rw [Query.holds, Query.holds, Query.holdsKey]
      rfl
  have hfirst : (service (.update "c" [("_id", .int32 1)] change) s).2 =
      s.put "c" ([] ++ overwritten :: [[("_id", .int32 2)]]) :=
    service_update_of_first rfl hone rfl
  have hsecond : empty.after collidingCalls =
      (s.put "c" [overwritten, [("_id", .int32 2)]]).put "c" ([overwritten] ++ overwritten :: []) :=
    (congrArg (fun s => (service (.update "c" [("_id", .int32 2)] change) s).2) hfirst).trans
      (service_update_of_first rfl htwo rfl)
  have h : (empty.after collidingCalls).identities "c" =
      [some (.document [("x", .null)]), some (.document [("x", .null)])] := by
    rw [hsecond]
    rfl
  refine ⟨h, fun hunique => ?_⟩
  have hfalse := hunique "c" 0 1 (.document [("x", .null)]) (.document [("x", .null)])
    Nat.zero_ne_one (by rw [h]; rfl) (by rw [h]; rfl)
  exact absurd hfalse (by decide)

end Store

end Dossier
