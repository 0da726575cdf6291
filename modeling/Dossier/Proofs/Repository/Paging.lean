/-
# Paging loses and repeats nothing

A page of a search is cut out twice over: the store gives the documents from a place on, at most as
many as were asked for, and only these are decoded, while the number of all matches is taken before
the cut.  Where the search without a page succeeds, every match can be decoded, so any page of it
can be, and the records of the page are those that stand in its place among all
(`Repository.run_search_eq_ok_iff`, `Store.find_page`).

Pages of one length, one after another, therefore hold every record once, in order
(`run_searchPages`).

Main statement: `Repository.search_paged`.
-/
import Dossier.Proofs.Converter.Soundness
import Dossier.Proofs.Repository.Calls
import Dossier.Proofs.Store.Calls
import Mathlib.Data.List.Forall2

namespace Dossier

/-! ## 1. Pages of lists -/

namespace Store

variable {α β : Type}

/-- A page holds what comes after the items that are skipped, as far as the limit goes. -/
theorem page_eq_take_drop (skip : Nat) (limit : Option Nat) (items : List α) :
    page skip limit items = (items.drop skip).take (limit.getD items.length) := by
  cases limit with
  | some n => rfl
  | none =>
    rw [Option.getD_none, List.take_of_length_le (by rw [List.length_drop]; omega)]
    rfl

/-- Related lists have related pages. -/
theorem forall₂_page {R : α → β → Prop} {as : List α} {bs : List β} (h : List.Forall₂ R as bs)
    (skip : Nat) (limit : Option Nat) :
    List.Forall₂ R (page skip limit as) (page skip limit bs) := by
  rw [page_eq_take_drop, page_eq_take_drop, h.length_eq]
  exact List.forall₂_take _ (List.forall₂_drop _ h)

/-- **The documents of a page are cut out of those of the whole search**, whose number is told on
every page. -/
theorem find_page {s : Store} {collection : String} {query : Document} {found : Found}
    (h : s.find collection query 0 none = .ok found) (skip : Nat) (limit : Option Nat) :
    s.find collection query skip limit =
      .ok ⟨page skip limit found.documents, some found.documents.length⟩ := by
  unfold find at h ⊢
  cases hget : s.get? collection with
  | none =>
    rw [hget] at h
    cases h
    cases limit <;> simp [page]
  | some documents =>
    rw [hget] at h
    dsimp only at h ⊢
    cases hselect : Query.select id query documents with
    | error fault => rw [hselect] at h; cases h
    | ok selected =>
      rw [hselect] at h
      cases h
      rfl

end Store

/-! ## 2. One search -/

namespace Procedure

variable {σ α β : Type} {service : Service σ}

/-- A procedure in two parts succeeds if both do, the second from where the first has left off. -/
theorem run_bind_eq_ok_iff {p : Procedure α} {next : α → Procedure β} {state final : σ} {b : β} :
    (p >>= next).run service state = (.ok b, final) ↔
      ∃ a middle, p.run service state = (.ok a, middle) ∧
        (next a).run service middle = (.ok b, final) := by
  show (p.bind next).run service state = _ ↔ _
  rw [run_bind]
  rcases p.run service state with ⟨result, middle⟩
  cases result with
  | error e => exact iff_of_false (by rintro ⟨⟩) (by rintro ⟨_, _, ⟨⟩, -⟩)
  | ok a =>
    constructor
    · intro h
      exact ⟨a, middle, rfl, h⟩
    · rintro ⟨_, _, ⟨⟩, h⟩
      exact h

/-- A result that is there without the service leaves the state alone. -/
theorem run_done_eq_ok_iff {result : Except StoreError α} {state final : σ} {a : α} :
    (done result).run service state = (.ok a, final) ↔ result = .ok a ∧ final = state := by
  rw [run, Prod.mk.injEq, eq_comm (a := state)]

theorem run_ofConversion_eq_ok_iff {result : Except ConversionError α} {state final : σ} {a : α} :
    (ofConversion result).run service state = (.ok a, final) ↔ result = .ok a ∧ final = state := by
  rw [ofConversion, run_done_eq_ok_iff]
  cases result with
  | error e => exact iff_of_false (by rintro ⟨⟨⟩, -⟩) (by rintro ⟨⟨⟩, -⟩)
  | ok b => rw [Except.mapError, Except.ok.injEq, Except.ok.injEq]

end Procedure

namespace Repository

variable {r : Repository} {s s' : Store}

/-- Documents are decoded one after another, and the store has no part in it. -/
theorem run_decodeAll_eq_ok_iff {documents : List Document} {records : List (List Value)} :
    (r.decodeAll documents).run Store.service s = (.ok records, s') ↔
      List.Forall₂ (fun d values => r.converter.decode r.types r.record d = .ok values)
        documents records ∧ s' = s := by
  induction documents generalizing records s' with
  | nil =>
    rw [List.forall₂_nil_left_iff, eq_comm (a := records)]
    exact Procedure.run_done_eq_ok_iff.trans (and_congr_left fun _ => by rw [Except.ok.injEq])
  | cons d rest ih =>
    rw [List.forall₂_cons_left_iff]
    constructor
    · intro hrun
      obtain ⟨values, _, hfirst, hnext⟩ := Procedure.run_bind_eq_ok_iff.mp hrun
      obtain ⟨hdecode, rfl⟩ := Procedure.run_ofConversion_eq_ok_iff.mp hfirst
      obtain ⟨others, _, hothers, hlast⟩ := Procedure.run_bind_eq_ok_iff.mp hnext
      obtain ⟨hrest, rfl⟩ := ih.mp hothers
      obtain ⟨hrecords, rfl⟩ := Procedure.run_done_eq_ok_iff.mp hlast
      cases hrecords
      exact ⟨⟨values, others, hdecode, hrest, rfl⟩, rfl⟩
    · rintro ⟨⟨values, others, hdecode, hrest, rfl⟩, rfl⟩
      refine Procedure.run_bind_eq_ok_iff.mpr ⟨values, _,
        Procedure.run_ofConversion_eq_ok_iff.mpr ⟨hdecode, rfl⟩, ?_⟩
      exact Procedure.run_bind_eq_ok_iff.mpr ⟨others, _, ih.mpr ⟨hrest, rfl⟩, rfl⟩

/-- **A search succeeds** if its filter is read, the store finds documents and each of them can be
decoded; it changes nothing. -/
theorem run_search_eq_ok_iff {request : SearchRequest} {found : SearchPage} :
    (r.search request).run Store.service s = (.ok found, s') ↔
      (∃ query documents, compileFilter request.filter = .ok query ∧
        s.find r.collection query request.skip request.size = .ok ⟨documents, found.count⟩ ∧
        List.Forall₂ (fun d values => r.converter.decode r.types r.record d = .ok values)
          documents found.records ∧
        found.skip = request.skip) ∧ s' = s := by
  constructor
  · intro hrun
    obtain ⟨query, _, hcompile, hsearch⟩ := Procedure.run_bind_eq_ok_iff.mp hrun
    obtain ⟨hquery, rfl⟩ := Procedure.run_done_eq_ok_iff.mp hcompile
    obtain ⟨⟨documents, total⟩, _, hcall, hnext⟩ := Procedure.run_bind_eq_ok_iff.mp hsearch
    obtain ⟨hfind, rfl⟩ := Prod.mk.inj hcall
    obtain ⟨records, _, hrecords, hlast⟩ := Procedure.run_bind_eq_ok_iff.mp hnext
    obtain ⟨hdecode, rfl⟩ := run_decodeAll_eq_ok_iff.mp hrecords
    obtain ⟨hpage, rfl⟩ := Procedure.run_done_eq_ok_iff.mp hlast
    cases hpage
    exact ⟨⟨query, documents, hquery, hfind, hdecode, rfl⟩, rfl⟩
  · obtain ⟨skip, count, records⟩ := found
    rintro ⟨⟨query, documents, hquery, hfind, hdecode, rfl⟩, rfl⟩
    refine Procedure.run_bind_eq_ok_iff.mpr ⟨query, _,
      Procedure.run_done_eq_ok_iff.mpr ⟨hquery, rfl⟩, ?_⟩
    refine Procedure.run_bind_eq_ok_iff.mpr ⟨⟨documents, count⟩, _, Prod.ext hfind rfl, ?_⟩
    exact Procedure.run_bind_eq_ok_iff.mpr ⟨records, _,
      run_decodeAll_eq_ok_iff.mpr ⟨hdecode, rfl⟩, rfl⟩

/-- **Where the search without a page succeeds, every page of it does.** -/
theorem run_search_page {filter : String} {all : SearchPage}
    (h : (r.search { filter }).run Store.service s = (.ok all, s')) (skip : Nat)
    (size : Option Nat) :
    (r.search ⟨filter, skip, size⟩).run Store.service s =
      (.ok ⟨skip, some all.records.length, Store.page skip size all.records⟩, s) := by
  obtain ⟨⟨query, documents, hquery, hfind, hdecode, -⟩, -⟩ := run_search_eq_ok_iff.mp h
  refine run_search_eq_ok_iff.mpr ⟨⟨query, Store.page skip size documents, hquery, ?_,
    Store.forall₂_page hdecode skip size, rfl⟩, rfl⟩
  rw [← hdecode.length_eq]
  exact Store.find_page hfind skip size

/-! ## 3. One page after another -/

/-- The first pages of a search, each with room for as many records. -/
def searchPages (r : Repository) (filter : String) (room : Nat) : Nat → Procedure (List SearchPage)
  | 0 => pure []
  | n + 1 => do
    let pages ← searchPages r filter room n
    let next ← r.search ⟨filter, n * room, some room⟩
    return pages ++ [next]

/-- **Pages one after another hold the records from the first on**, each once and in order.  By
induction on the number of pages. -/
theorem run_searchPages {filter : String} {all : SearchPage}
    (h : (r.search { filter }).run Store.service s = (.ok all, s')) (room n : Nat) :
    ∃ pages, (r.searchPages filter room n).run Store.service s = (.ok pages, s) ∧
      pages.flatMap SearchPage.records = all.records.take (n * room) := by
  induction n with
  | zero => exact ⟨[], rfl, by rw [Nat.zero_mul, List.take_zero, List.flatMap_nil]⟩
  | succ n ih =>
    obtain ⟨pages, hpages, hrecords⟩ := ih
    refine ⟨_, Procedure.run_bind_eq_ok_iff.mpr ⟨pages, s, hpages,
      Procedure.run_bind_eq_ok_iff.mpr ⟨_, s, run_search_page h (n * room) (some room), rfl⟩⟩, ?_⟩
    rw [List.flatMap_append, List.flatMap_singleton, hrecords, Nat.succ_mul, List.take_add]
    rfl

end Repository

/-- The page holds what comes after the records that are skipped, as far as the size goes, and says
how many records these are and how many there are in all. -/
structure SearchPage.CutFrom (found : SearchPage) (all : List (List Value)) (skip : Nat)
    (size : Option Nat) : Prop where
  records : found.records = (all.drop skip).take (size.getD all.length)
  skipped : found.skip = skip
  count : found.count = some all.length
  written : ∀ record, found.toJson record =
    .object [("from", .whole skip),
      ("size", .whole (min (size.getD all.length) (all.length - skip) : Nat)),
      ("count", .whole all.length), ("results", .array (found.records.map record))]

namespace Repository

variable {r : Repository} {s s' : Store}

/-- **Paging loses and repeats nothing.**  If a search without a page succeeds, so does every page
of it, and is cut out of its records; pages of one size, one after another, hold all its records
once they have room for them. -/
theorem search_paged {filter : String} {all : SearchPage}
    (h : (r.search { filter }).run Store.service s = (.ok all, s')) :
    (∀ skip size, ∃ found, (r.search ⟨filter, skip, size⟩).run Store.service s = (.ok found, s) ∧
      found.CutFrom all.records skip size) ∧
    ∀ room n, all.records.length ≤ n * room → ∃ pages,
      (r.searchPages filter room n).run Store.service s = (.ok pages, s) ∧
        pages.flatMap SearchPage.records = all.records := by
  constructor
  · intro skip size
    refine ⟨_, run_search_page h skip size, Store.page_eq_take_drop skip size all.records, rfl, rfl,
      fun record => ?_⟩
    rw [SearchPage.toJson, Store.page_eq_take_drop, List.length_take, List.length_drop]
    rfl
  · intro room n hroom
    obtain ⟨pages, hpages, hrecords⟩ := run_searchPages h room n
    exact ⟨pages, hpages, hrecords.trans (List.take_of_length_le hroom)⟩

namespace Example

/-- Levels that were read, each with its number. -/
def readings : Repository where
  types := fun _ =>
    ⟨"Reading", [⟨"number", .int64, none, true⟩, ⟨"level", .int32, none, false⟩], true⟩
  record := 0
  collection := "readings"

def reading (number : Int64) (level : Int32) : Document :=
  [("_id", .int64 number), ("level", .int32 level)]

theorem decode_reading (number : Int64) (level : Int32) :
    readings.converter.decode readings.types readings.record (reading number level) =
      .ok [.int64 number, .int32 level] := by
  have hfree : (FieldType.record 0).SetFree readings.types := FieldType.setFree_of_hasSet
    (fun _ => show ∀ field ∈ (readings.types 0).fields, field.type.hasSet = false by decide) rfl
  exact Converter.decode_of_setFree rfl hfree (Converter.decodeValues_of_reads rfl rfl
    (.cons (.plain (.int64 number)) (.cons (.plain (.int32 level)) .nil)))

/-- Four readings, of which the second is low. -/
def fourReadings : Store :=
  Store.empty.put "readings" [reading 1 5, reading 2 0, reading 3 7, reading 4 2]

/-- The readings that are not low. -/
def highReadings : SearchPage :=
  ⟨0, some 3, [[.int64 1, .int32 5], [.int64 3, .int32 7], [.int64 4, .int32 2]]⟩

/-- A page beyond the end is empty and one without room tells the count, as far as numbers of 64
bits go, and two pages of two hold all. -/
theorem search_paged_readings :
    let run {α : Type} (p : Procedure α) := p.run Store.service fourReadings
    run (readings.search { filter := "level ge 2" }) = (.ok highReadings, fourReadings) ∧
      (∃ found, run (readings.search ⟨"level ge 2", UInt64.size - 1, some (UInt64.size - 1)⟩) =
        (.ok found, fourReadings) ∧ found.records = [] ∧ found.count = some 3) ∧
      (∃ found, run (readings.search ⟨"level ge 2", 0, some 0⟩) = (.ok found, fourReadings) ∧
        found.records = [] ∧ found.count = some 3) ∧
      ∃ pages, run (readings.searchPages "level ge 2" 2 2) = (.ok pages, fourReadings) ∧
        pages.flatMap SearchPage.records = highReadings.records := by
  intro run
  have hholds (d : Document) : Query.holds d [("level", .document [("$gte", .int64 2)])] =
      .ok (Query.isOrder (Query.order (Path.resolve (Path.segments "level") d) (.int64 2))
        .gt .eq) :=
    Query.holds_operator d rfl rfl (.int64 2)
  have hfind : fourReadings.find "readings" [("level", .document [("$gte", .int64 2)])] 0 none =
      .ok ⟨[reading 1 5, reading 3 7, reading 4 2], some 3⟩ :=
    Store.find_eq (fun d _ => hholds d) 0 none
  have hsearch : run (readings.search { filter := "level ge 2" }) =
      (.ok highReadings, fourReadings) :=
    run_search_eq_ok_iff.mpr ⟨⟨_, _, rfl, hfind, .cons (decode_reading 1 5)
      (.cons (decode_reading 3 7) (.cons (decode_reading 4 2) .nil)), rfl⟩, rfl⟩
  obtain ⟨hpage, hpages⟩ := search_paged hsearch
  obtain ⟨beyond, hbeyond, hcut⟩ := hpage (UInt64.size - 1) (some (UInt64.size - 1))
  obtain ⟨counted, hcounted, hcut'⟩ := hpage 0 (some 0)
  exact ⟨hsearch, ⟨beyond, hbeyond, hcut.records, hcut.count⟩,
    ⟨counted, hcounted, hcut'.records, hcut'.count⟩, hpages 2 2 (by decide)⟩

end Example

end Repository

end Dossier
