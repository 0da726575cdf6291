/-
# Updates of whole fields

An update that writes at plain keys only, none of them the identity, sets these keys and cannot
fail (`Store.applyUpdate_set`).  After it, a key that was written has its new value and every other
key its old one (`Document.get?_insertAll`), and a document that had all the keys keeps them in
their order (`Document.keys_insertAll`).
-/
import Dossier.Proofs.Bson.Sameness
import Dossier.Proofs.Query.Path
import Dossier.Proofs.Store.Writes

namespace Dossier

namespace Document

/-- Sets keys, one after another. -/
def insertAll (d fields : Document) : Document :=
  fields.foldl (fun d entry => d.insert entry.1 entry.2) d

theorem get?_eq_none_of_notMem {d : Document} {key : String} (h : key ∉ d.keys) :
    d.get? key = none :=
  Option.not_isSome_iff_eq_none.mp fun hsome => h ((mem_keys_iff_get? d key).mpr hsome)

/-- Keys that stand once are set to their values, and no others. -/
theorem get?_insertAll {fields : Document} (h : fields.keys.Nodup) (d : Document) (key : String) :
    (d.insertAll fields).get? key = (fields.get? key).or (d.get? key) := by
  induction fields generalizing d with
  | nil => rfl
  | cons entry rest ih =>
    obtain ⟨k, v⟩ := entry
    obtain ⟨hfresh, hrest⟩ := List.nodup_cons.mp h
    show ((d.insert k v).insertAll rest).get? key = _
    rw [ih hrest, get?_cons]
    by_cases hk : k = key
    · subst hk
      rw [if_pos rfl, get?_insert_self, get?_eq_none_of_notMem hfresh]
      rfl
    · rw [if_neg hk, get?_insert_of_ne d v hk]

/-- Setting keys that are there already adds none. -/
theorem keys_insertAll {d fields : Document} (h : ∀ key ∈ fields.keys, key ∈ d.keys) :
    (d.insertAll fields).keys = d.keys := by
  induction fields generalizing d with
  | nil => rfl
  | cons entry rest ih =>
    obtain ⟨k, v⟩ := entry
    obtain ⟨hk, hrest⟩ := List.forall_mem_cons.mp h
    have hkeys : (d.insert k v).keys = d.keys := by rw [keys_insert, if_pos hk]
    show ((d.insert k v).insertAll rest).keys = d.keys
    rw [ih fun key hkey => hkeys ▸ hrest key hkey, hkeys]

theorem keys_filter_sublist (p : String × Bson → Bool) (d : Document) :
    (Document.keys (d.filter p)).Sublist d.keys :=
  List.Sublist.map _ List.filter_sublist

/-- What is left of a key whose entry may be dropped. -/
theorem get?_filter {d : Document} (h : d.keys.Nodup) (p : String × Bson → Bool) (key : String) :
    Document.get? (d.filter p) key = (d.get? key).filter fun value => p (key, value) := by
  induction d with
  | nil => rfl
  | cons entry rest ih =>
    obtain ⟨k, v⟩ := entry
    obtain ⟨hfresh, hrest⟩ := List.nodup_cons.mp h
    rw [List.filter_cons, get?_cons]
    by_cases hk : k = key
    · subst hk
      rw [if_pos rfl, Option.filter_some]
      split
      · rw [get?_cons, if_pos rfl]
      · rw [ih hrest, get?_eq_none_of_notMem hfresh]
        rfl
    · rw [if_neg hk, ← ih hrest]
      split
      · rw [get?_cons, if_neg hk]
      · rfl

end Document

namespace Store

/-- At keys without points, writing is setting. -/
theorem writeAll_eq_insertAll {fields : Document} (h : ∀ key ∈ fields.keys, '.' ∉ key.toList)
    (d : Document) : writeAll fields d = d.insertAll fields := by
  induction fields generalizing d with
  | nil => rfl
  | cons entry rest ih =>
    obtain ⟨key, value⟩ := entry
    obtain ⟨hplain, hrest⟩ := List.forall_mem_cons.mp h
    rw [writeAll_cons, Path.segments_eq_singleton_iff.mpr ⟨rfl, hplain⟩]
    exact ih hrest _

theorem applyUpdate_set {fields : Document}
    (h : ∀ key ∈ fields.keys, key ≠ storeIdentityKey ∧ '.' ∉ key.toList) (d : Document) :
    applyUpdate [("$set", .document fields)] d = .ok (d.insertAll fields) := by
  refine applyUpdate_eq_ok_iff.mpr ⟨?_, ?_⟩
  · exact List.forall_mem_singleton.mpr ⟨rfl, fields, rfl, fun hmem => (h _ hmem).1 rfl⟩
  · rw [writes_cons, writeAll_append, writeAll_eq_insertAll fun key hkey => (h key hkey).2]
    rfl

end Store

end Dossier
