/-
# Paths of one segment, and what a write leaves alone

A path without points is its own single segment (`segments_eq_singleton_iff`), so a write at such
a path sets the key of that name.  Whatever the path, a write touches only the key that is its
first segment (`get?_set_of_ne`), and a write that goes on below that key leaves a document
there (`exists_document_of_set`).
-/
import Dossier.Query.Path

namespace Dossier

namespace Path

/-! ## 1. Splitting -/

theorem split_of_notMem {s : List Char} (h : '.' ∉ s) : split s = [s] := by
  induction s with
  | nil => rfl
  | cons c s ih =>
    have hc : c ≠ '.' := fun e => h (e ▸ List.mem_cons_self)
    rw [split, if_neg hc, ih fun hs => h (List.mem_cons_of_mem _ hs)]

theorem eq_of_split_eq_singleton {s part : List Char} (h : split s = [part]) : s = part := by
  induction s generalizing part with
  | nil =>
    rw [split] at h
    exact (List.cons.inj h).1
  | cons c s ih =>
    rw [split] at h
    split at h
    · exact absurd (List.cons.inj h).2 (split_ne_nil s)
    · split at h
      · rename_i hnil
        exact absurd hnil (split_ne_nil s)
      · rename_i first rest hsplit
        obtain ⟨hpart, hrest⟩ := List.cons.inj h
        rw [ih (hrest ▸ hsplit), hpart]

theorem notMem_of_split_eq_singleton {s part : List Char} (h : split s = [part]) : '.' ∉ s := by
  induction s generalizing part with
  | nil => exact List.not_mem_nil
  | cons c s ih =>
    rw [split] at h
    split at h
    · exact absurd (List.cons.inj h).2 (split_ne_nil s)
    · rename_i hc
      split at h
      · rename_i hnil
        exact absurd hnil (split_ne_nil s)
      · rename_i first rest hsplit
        have hs := ih ((List.cons.inj h).2 ▸ hsplit)
        exact fun hmem => (List.mem_cons.mp hmem).elim (fun e => hc e.symm) hs

/-- **A path is a single segment exactly if it has no point.** -/
theorem segments_eq_singleton_iff {path key : String} :
    segments path = [key] ↔ path = key ∧ '.' ∉ path.toList := by
  constructor
  · intro h
    obtain ⟨part, hpart, hkey⟩ : ∃ part, split path.toList = [part] ∧ String.ofList part = key := by
      unfold segments at h
      cases hsplit : split path.toList with
      | nil => exact absurd hsplit (split_ne_nil _)
      | cons part rest =>
        rw [hsplit, List.map_cons] at h
        obtain ⟨hkey, hrest⟩ := List.cons.inj h
        exact ⟨part, by rw [List.map_eq_nil_iff.mp hrest], hkey⟩
    refine ⟨?_, notMem_of_split_eq_singleton hpart⟩
    rw [← hkey, ← eq_of_split_eq_singleton hpart, String.ofList_toList]
  · rintro ⟨rfl, h⟩
    rw [segments, split_of_notMem h, List.map_singleton, String.ofList_toList]

/-! ## 2. Writing -/

/-- A write touches no key but its first segment. -/
theorem get?_set_of_ne {first : String} (rest : List String) (value : Bson) (d : Document)
    {key : String} (h : first ≠ key) :
    (set (first :: rest) value d).get? key = d.get? key := by
  cases rest with
  | nil => exact Document.get?_insert_of_ne d value h
  | cons next more => exact Document.get?_insert_of_ne d _ h

/-- A write below a key leaves a document under the key. -/
theorem exists_document_of_set (key next : String) (rest : List String) (value : Bson)
    (d : Document) :
    ∃ inner, (set (key :: next :: rest) value d).get? key = some (.document inner) :=
  ⟨_, Document.get?_insert_self d key _⟩

end Path

end Dossier
