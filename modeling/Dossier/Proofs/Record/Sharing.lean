/-
# One cache for many callers

Calls for descriptors share a cache.  A call looks its descriptor up.  If there is none, it builds
one and takes a copy of the cache; it puts the descriptor into the copy, unless there is one by now,
and makes the copy the cache, provided that the cache is still what was copied; if not, it takes
another copy.  Then it looks its descriptor up again (`Call.Step`).  Between any two steps of a call
others take theirs (`Run`), so that a copy may be out of date when it is to become the cache.

The cache is at all times what was stored so far, the first for each record type (`Inv`).  Two facts
carry this: a copy that becomes the cache is not out of date, so that a swap does to the cache what
`insertIfAbsent` does; and an entry that is there stays (`Extends`), so that what a call has found
remains true while others go on.

Entries are of any type.  Where they are descriptors with the place that each is kept in, equal
entries are one shared descriptor.

Main statement: `Run.converged`.  A call that nobody interrupts does what `getOrInsert` does
(`exists_run_alone`).
-/
import Dossier.Record.Descriptor
import Mathlib.Data.Finset.Card

namespace Dossier

namespace DescriptorCache

variable {ι δ ε : Type}

/-! ## 1. Calls -/

/-- The record type that a call is for, and what building its descriptor gives. -/
structure Call (δ ε : Type) where
  id : RecordId
  build : Except ε δ

/-- How far a call has come. -/
inductive Phase (δ ε : Type) where
  | waiting
  /-- There was no descriptor. -/
  | missed
  | built (descriptor : δ)
  | copied (descriptor : δ) (copy : DescriptorCache δ)
  | stored (descriptor : δ)
  | done (result : Except ε δ)

/-- What a call does in a step. -/
inductive Move where
  | load
  | build
  | copy
  | swap
  | reload
deriving DecidableEq

/-- One step of a call: what it does to the cache, and how far the call comes by it.  A copy may be
taken again at any time before it becomes the cache, even if it is not out of date. -/
inductive Call.Step (call : Call δ ε) :
    DescriptorCache δ → Phase δ ε → Move → DescriptorCache δ → Phase δ ε → Prop where
  | hit {cache : DescriptorCache δ} {d : δ} (h : cache.get? call.id = some d) :
      Step call cache .waiting .load cache (.done (.ok d))
  | miss {cache : DescriptorCache δ} (h : cache.get? call.id = none) :
      Step call cache .waiting .load cache .missed
  | fail {cache : DescriptorCache δ} {e : ε} (h : call.build = .error e) :
      Step call cache .missed .build cache (.done (.error e))
  | build {cache : DescriptorCache δ} {d : δ} (h : call.build = .ok d) :
      Step call cache .missed .build cache (.built d)
  | copy (cache : DescriptorCache δ) (d : δ) :
      Step call cache (.built d) .copy cache (.copied d cache)
  | copyAgain (cache copy : DescriptorCache δ) (d : δ) :
      Step call cache (.copied d copy) .copy cache (.copied d cache)
  | swap {cache copy : DescriptorCache δ} (h : copy = cache) (d : δ) :
      Step call cache (.copied d copy) .swap (copy.insertIfAbsent call.id d) (.stored d)
  | reload (cache : DescriptorCache δ) (d : δ) :
      Step call cache (.stored d) .reload cache (.done (.ok ((cache.get? call.id).getD d)))

/-! ## 2. Caches that grow -/

/-- The second cache has all entries of the first. -/
def Extends (cache cache' : DescriptorCache δ) : Prop :=
  ∀ id d, cache.get? id = some d → cache'.get? id = some d

theorem Extends.refl (cache : DescriptorCache δ) : cache.Extends cache := fun _ _ h => h

theorem Extends.trans {cache₁ cache₂ cache₃ : DescriptorCache δ} (h : cache₁.Extends cache₂)
    (h' : cache₂.Extends cache₃) : cache₁.Extends cache₃ := fun id d hd => h' id d (h id d hd)

theorem extends_insertIfAbsent (cache : DescriptorCache δ) (id : RecordId) (descriptor : δ) :
    cache.Extends (cache.insertIfAbsent id descriptor) := by
  intro other d hd
  rw [get?_insertIfAbsent]
  by_cases h : other = id
  · rw [if_pos h, ← h, hd, Option.getD_some]
  · rw [if_neg h, hd]

/-- Each record type stands once in the cache. -/
def Distinct (cache : DescriptorCache δ) : Prop := (cache.entries.map Prod.fst).Nodup

theorem get?_eq_none_iff {cache : DescriptorCache δ} {id : RecordId} :
    cache.get? id = none ↔ id ∉ cache.entries.map Prod.fst := by
  unfold get?
  rw [List.lookup_eq_none_iff, List.mem_map]
  simp only [not_exists, not_and, bne_iff_ne]
  exact forall₂_congr fun entry _ => ne_comm

theorem Distinct.insertIfAbsent {cache : DescriptorCache δ} (h : cache.Distinct) (id : RecordId)
    (descriptor : δ) : (cache.insertIfAbsent id descriptor).Distinct := by
  unfold DescriptorCache.insertIfAbsent
  cases hget : cache.get? id with
  | some _ => exact h
  | none =>
    unfold Distinct
    rw [List.map_append, List.map_singleton]
    exact List.nodup_append_comm.mp (List.nodup_cons.mpr ⟨get?_eq_none_iff.mp hget, h⟩)

/-! ## 3. Single steps -/

/-- What is known of a call from how far it has come: what it holds is what it has built, and what
it has stored or found is in the cache. -/
def Phase.Backed (call : Call δ ε) (cache : DescriptorCache δ) : Phase δ ε → Prop
  | .waiting | .missed => True
  | .built d | .copied d _ => call.build = .ok d
  | .stored _ => (cache.get? call.id).isSome
  | .done (.ok d) => cache.get? call.id = some d
  | .done (.error e) => call.build = .error e

/-- The entry that a call stores by a move, if it does. -/
def Call.stored (call : Call δ ε) : Move → Option (RecordId × δ)
  | .swap =>
    match call.build with
    | .ok d => some (call.id, d)
    | .error _ => none
  | _ => none

section

variable {call : Call δ ε} {cache cache' : DescriptorCache δ} {phase phase' : Phase δ ε}
variable {move : Move}

/-- What is known of a call remains true while others store. -/
theorem Phase.Backed.extend (h : phase.Backed call cache) (hextends : cache.Extends cache') :
    phase.Backed call cache' := by
  match phase with
  | .waiting | .missed | .built _ | .copied _ _ | .done (.error _) => exact h
  | .stored _ =>
    obtain ⟨d, hd⟩ := Option.isSome_iff_exists.mp h
    exact Option.isSome_iff_exists.mpr ⟨d, hextends _ _ hd⟩
  | .done (.ok d) => exact hextends _ _ h

namespace Call

/-- **A step replaces and removes no entry.** -/
theorem Step.extends (h : call.Step cache phase move cache' phase') : cache.Extends cache' := by
  cases h with
  | swap hsame d =>
    subst hsame
    exact extends_insertIfAbsent _ _ _
  | _ => exact Extends.refl _

theorem Step.distinct (h : call.Step cache phase move cache' phase') (hdistinct : cache.Distinct) :
    cache'.Distinct := by
  cases h with
  | swap hsame d =>
    subst hsame
    exact hdistinct.insertIfAbsent _ _
  | _ => exact hdistinct

theorem Step.backed (h : call.Step cache phase move cache' phase')
    (hbacked : phase.Backed call cache) : phase'.Backed call cache' := by
  cases h with
  | hit hd => exact hd
  | miss => trivial
  | fail he => exact he
  | build hd => exact hd
  | copy d => exact hbacked
  | copyAgain copy d => exact hbacked
  | swap _ d =>
    show (DescriptorCache.get? _ _).isSome
    rw [get?_insertIfAbsent, if_pos rfl, Option.isSome_some]
  | reload d =>
    obtain ⟨found, hfound⟩ := Option.isSome_iff_exists.mp hbacked
    show cache.get? call.id = some _
    rw [hfound, Option.getD_some]

/-- **A step adds what it stores, unless there is an entry for the record type.** -/
theorem Step.get?_eq (h : call.Step cache phase move cache' phase')
    (hbacked : phase.Backed call cache) (id : RecordId) :
    cache'.get? id = (cache.get? id).or ((call.stored move).toList.lookup id) := by
  cases h with
  | @swap copy hsame d =>
    subst hsame
    have hbuild : call.build = .ok d := hbacked
    unfold stored
    rw [get?_insertIfAbsent, hbuild]
    by_cases hid : id = call.id
    · subst hid
      rw [if_pos rfl, Option.toList_some, List.lookup_cons_self]
      cases copy.get? call.id <;> rfl
    · rw [if_neg hid, Option.toList_some, List.lookup_cons, beq_false_of_ne hid]
      exact Option.or_none.symm
  | _ => exact Option.or_none.symm

/-- A call whose build fails never swaps. -/
theorem Step.cache_eq_of_error (h : call.Step cache phase move cache' phase')
    (hbacked : phase.Backed call cache) {e : ε} (he : call.build = .error e) : cache' = cache := by
  cases h with
  | swap _ d => exact absurd (he.symm.trans hbacked) (by rintro ⟨⟩)
  | _ => rfl

theorem Step.eq_done_of_error (h : call.Step cache phase .build cache' phase') {e : ε}
    (he : call.build = .error e) : phase' = .done (.error e) := by
  cases h with
  | fail he' => rw [he] at he'; cases he'; rfl
  | build hd => rw [he] at hd; cases hd

theorem Step.ne_done (h : call.Step cache phase move cache' phase') (result : Except ε δ) :
    phase ≠ .done result := by
  rintro rfl
  cases h

end Call

end

/-! ## 4. The invariant -/

/-- The cache, and how far each call has come. -/
structure Shared (ι δ ε : Type) where
  cache : DescriptorCache δ := {}
  phases : ι → Phase δ ε := fun _ => .waiting

/-- The entries that were stored, in order.  One is stored with each swap, also where the cache
keeps an earlier one. -/
def stores (calls : ι → Call δ ε) (moves : List (ι × Move)) : List (RecordId × δ) :=
  moves.filterMap fun made => (calls made.1).stored made.2

variable {calls : ι → Call δ ε} {moves : List (ι × Move)} {s start : Shared ι δ ε}

theorem stores_append_singleton (i : ι) (move : Move) :
    stores calls (moves ++ [(i, move)]) =
      stores calls moves ++ ((calls i).stored move).toList := by
  unfold stores
  rw [List.filterMap_append, List.filterMap_cons, List.filterMap_nil]
  dsimp only
  cases (calls i).stored move <;> rfl

/-- The invariant of runs from an empty cache. -/
structure Inv (calls : ι → Call δ ε) (moves : List (ι × Move)) (s : Shared ι δ ε) : Prop where
  first : ∀ id, s.cache.get? id = (stores calls moves).lookup id
  distinct : s.cache.Distinct
  backed : ∀ i, (s.phases i).Backed (calls i) s.cache
  failed : ∀ i e, (calls i).build = .error e → (i, .build) ∈ moves →
    s.phases i = .done (.error e)

theorem inv_start (calls : ι → Call δ ε) : Inv calls [] {} where
  first _ := rfl
  distinct := List.nodup_nil
  backed _ := trivial
  failed _ _ _ h := absurd h List.not_mem_nil

/-- There are as many entries as there are record types for which something was stored. -/
theorem Inv.size_eq (h : Inv calls moves s) :
    s.cache.size = ((stores calls moves).map Prod.fst).toFinset.card := by
  have hids : ((stores calls moves).map Prod.fst).toFinset =
      (s.cache.entries.map Prod.fst).toFinset := by
    ext id
    have hnone : (stores calls moves).lookup id = none ↔
        id ∉ (stores calls moves).map Prod.fst := @get?_eq_none_iff δ ⟨stores calls moves⟩ id
    rw [List.mem_toFinset, List.mem_toFinset, ← not_iff_not, ← hnone, ← h.first id,
      get?_eq_none_iff]
  rw [hids, List.toFinset_card_of_nodup h.distinct, List.length_map]
  rfl

/-! ## 5. Runs -/

variable [DecidableEq ι]

/-- Steps one after another, each of any call. -/
inductive Run (calls : ι → Call δ ε) (start : Shared ι δ ε) :
    List (ι × Move) → Shared ι δ ε → Prop where
  | refl : Run calls start [] start
  | step {moves : List (ι × Move)} {s : Shared ι δ ε} {i : ι} {move : Move}
      {cache : DescriptorCache δ} {phase : Phase δ ε} (h : Run calls start moves s)
      (hstep : (calls i).Step s.cache (s.phases i) move cache phase) :
      Run calls start (moves ++ [(i, move)]) ⟨cache, Function.update s.phases i phase⟩

theorem Run.extends (h : Run calls start moves s) : start.cache.Extends s.cache := by
  induction h with
  | refl => exact Extends.refl _
  | step _ hstep ih => exact ih.trans hstep.extends

theorem Inv.step (h : Inv calls moves s) {i : ι} {move : Move} {cache : DescriptorCache δ}
    {phase : Phase δ ε} (hstep : (calls i).Step s.cache (s.phases i) move cache phase) :
    Inv calls (moves ++ [(i, move)]) ⟨cache, Function.update s.phases i phase⟩ where
  first id := by
    rw [stores_append_singleton, List.lookup_append, ← h.first id]
    exact hstep.get?_eq (h.backed i) id
  distinct := hstep.distinct h.distinct
  backed j := by
    by_cases hj : j = i
    · subst hj
      show ((Function.update s.phases j phase) j).Backed _ _
      rw [Function.update_self]
      exact hstep.backed (h.backed j)
    · show ((Function.update s.phases i phase) j).Backed _ _
      rw [Function.update_of_ne hj]
      exact (h.backed j).extend hstep.extends
  failed j e he hmem := by
    show Function.update s.phases i phase j = _
    by_cases hj : j = i
    · subst hj
      rw [Function.update_self]
      rcases List.mem_append.mp hmem with hmem | hmem
      · exact absurd (h.failed j e he hmem) (hstep.ne_done _)
      · cases List.mem_singleton.mp hmem
        exact hstep.eq_done_of_error he
    · rw [Function.update_of_ne hj]
      rcases List.mem_append.mp hmem with hmem | hmem
      · exact h.failed j e he hmem
      · exact absurd (congrArg Prod.fst (List.mem_singleton.mp hmem)) hj

theorem Run.inv (h : Run calls {} moves s) : Inv calls moves s := by
  induction h with
  | refl => exact inv_start calls
  | step _ hstep ih => exact ih.step hstep

theorem Run.next {i : ι} {cache cache' : DescriptorCache δ} {phase phase' : Phase δ ε} {move : Move}
    (h : Run calls start moves ⟨cache, Function.update start.phases i phase⟩)
    (hstep : (calls i).Step cache phase move cache' phase') :
    Run calls start (moves ++ [(i, move)]) ⟨cache', Function.update start.phases i phase'⟩ := by
  have hphase : Function.update start.phases i phase i = phase := Function.update_self ..
  have hrun := h.step (hphase.symm ▸ hstep)
  rwa [Function.update_idem] at hrun

/-- **A call that nobody interrupts does what `getOrInsert` does.** -/
theorem exists_run_alone (calls : ι → Call δ ε) {i : ι} (hwaiting : start.phases i = .waiting) :
    ∃ moves : List (ι × Move), (∀ made ∈ moves, made.1 = i) ∧
      Run calls start moves
        ⟨(start.cache.getOrInsert (calls i).id (calls i).build).2, Function.update start.phases i
          (.done (start.cache.getOrInsert (calls i).id (calls i).build).1)⟩ := by
  have hrefl : Run calls start [] ⟨start.cache, Function.update start.phases i .waiting⟩ := by
    rw [← hwaiting, Function.update_eq_self]
    exact .refl
  unfold getOrInsert
  cases hget : start.cache.get? (calls i).id with
  | some d => exact ⟨[(i, .load)], by simp, hrefl.next (.hit hget)⟩
  | none =>
    have hmissed := hrefl.next (.miss hget)
    cases hbuild : (calls i).build with
    | error e => exact ⟨[(i, .load), (i, .build)], by simp, hmissed.next (.fail hbuild)⟩
    | ok d =>
      have hstored := ((hmissed.next (.build hbuild)).next (.copy _ d)).next (.swap rfl d)
      have hdone := hstored.next (.reload _ d)
      rw [get?_insertIfAbsent, if_pos rfl, hget] at hdone
      exact ⟨[(i, .load), (i, .build), (i, .copy), (i, .swap), (i, .reload)], by simp, hdone⟩

/-! ## 6. Convergence -/

/-- What holds after a run, whatever the order of the steps was. -/
structure Converged (calls : ι → Call δ ε) (moves : List (ι × Move)) (s : Shared ι δ ε) : Prop where
  /-- All calls for a record type that end with a descriptor end with the first that was stored. -/
  shared : ∀ i d, s.phases i = .done (.ok d) →
    (stores calls moves).lookup (calls i).id = some d
  /-- This is the descriptor that the cache has. -/
  first : ∀ id, s.cache.get? id = (stores calls moves).lookup id
  /-- However the calls go on, no entry is replaced or removed. -/
  kept : ∀ more s', Run calls s more s' → s.cache.Extends s'.cache
  /-- A call whose build failed has ended with the error. -/
  failed : ∀ i e, (calls i).build = .error e → (i, .build) ∈ moves →
    s.phases i = .done (.error e)
  /-- No other call ends with an error. -/
  error : ∀ i e, s.phases i = .done (.error e) → (calls i).build = .error e
  /-- A call whose build fails changes nothing. -/
  untouched : ∀ i e, (calls i).build = .error e → ∀ move cache phase,
    (calls i).Step s.cache (s.phases i) move cache phase → cache = s.cache
  /-- There is one entry for each record type for which something was stored. -/
  size : s.cache.size = ((stores calls moves).map Prod.fst).toFinset.card

/-- **Calls that share a cache converge.** -/
theorem Run.converged (h : Run calls {} moves s) : Converged calls moves s where
  shared i d hd := by
    have hbacked := h.inv.backed i
    rw [hd] at hbacked
    rw [← h.inv.first]
    exact hbacked
  first := h.inv.first
  kept _ _ hmore := hmore.extends
  failed := h.inv.failed
  error i e he := by
    have hbacked := h.inv.backed i
    rw [he] at hbacked
    exact hbacked
  untouched i _ he _ _ _ hstep := hstep.cache_eq_of_error (h.inv.backed i) he
  size := h.inv.size_eq

namespace Example

/-- A descriptor of notes with the place it is kept in. -/
def note (place : Nat) (key : String) : Nat × RecordDescriptor :=
  (place, ⟨"Note", [⟨"text", .string, key⟩], none⟩)

/-- Two calls that build different descriptors for one record type, and a call for another record
type whose build fails. -/
def noteCalls : Fin 3 → Call (Nat × RecordDescriptor) String
  | 0 => ⟨0, .ok (note 0 "text")⟩
  | 1 => ⟨0, .ok (note 1 "Text")⟩
  | 2 => ⟨1, .error "no fields"⟩

/-- The first two calls copy the empty cache.  The copy of the first is out of date when it is to
become the cache, so that a second copy is taken. -/
def noteMoves : List (Fin 3 × Move) :=
  [(0, .load), (1, .load), (2, .load), (0, .build), (1, .build), (2, .build), (0, .copy),
    (1, .copy), (1, .swap), (0, .copy), (0, .swap), (0, .reload), (1, .reload)]

theorem run_notes : ∃ s, Run noteCalls {} noteMoves s ∧ s.cache = ⟨[(0, note 1 "Text")]⟩ ∧
    s.phases 0 = .done (.ok (note 1 "Text")) ∧ s.phases 1 = .done (.ok (note 1 "Text")) ∧
    s.phases 2 = .done (.error "no fields") := by
  have hrefl : Run noteCalls {} [] {} := .refl
  have hrun := hrefl
    |>.step (i := 0) (.miss rfl)
    |>.step (i := 1) (.miss rfl)
    |>.step (i := 2) (.miss rfl)
    |>.step (i := 0) (.build rfl)
    |>.step (i := 1) (.build rfl)
    |>.step (i := 2) (.fail rfl)
    |>.step (i := 0) (.copy _ _)
    |>.step (i := 1) (.copy _ _)
    |>.step (i := 1) (.swap rfl _)
    |>.step (i := 0) (.copyAgain _ _ _)
    |>.step (i := 0) (.swap rfl _)
    |>.step (i := 0) (.reload _ _)
    |>.step (i := 1) (.reload _ _)
  exact ⟨_, hrun, rfl, rfl, rfl, rfl⟩

/-- Both calls end with the descriptor that the second has stored, and there is one entry. -/
theorem converged_notes : ∃ s, Run noteCalls {} noteMoves s ∧ Converged noteCalls noteMoves s ∧
    s.phases 0 = .done (.ok (note 1 "Text")) ∧ s.phases 1 = .done (.ok (note 1 "Text")) ∧
    s.phases 2 = .done (.error "no fields") ∧ s.cache.size = 1 := by
  obtain ⟨s, hrun, hcache, hfirst, hsecond, hthird⟩ := run_notes
  refine ⟨s, hrun, hrun.converged, hfirst, hsecond, hthird, ?_⟩
  rw [hcache]
  rfl

end Example

end DescriptorCache

end Dossier
