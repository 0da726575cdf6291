/-
# An update is its writes

An update lists operators, and each operator lists values under their paths.  Nothing comes of the
nesting: an update that is accepted writes all its values, one after another
(`applyUpdate_eq_ok_iff`), and whether it is accepted depends on the update alone
(`Store.Settable`), not on the document.  What writes keep is then an induction on a single list.
-/
import Dossier.Store

namespace Dossier

namespace Store

/-- Writes values at their paths, one after another. -/
def writeAll (fields d : Document) : Document :=
  fields.foldl (fun d entry => Path.set (Path.segments entry.1) entry.2 d) d

theorem writeAll_cons (path : String) (value : Bson) (rest d : Document) :
    writeAll ((path, value) :: rest) d =
      writeAll rest (Path.set (Path.segments path) value d) := rfl

theorem writeAll_append (fields others d : Document) :
    writeAll (fields ++ others) d = writeAll others (writeAll fields d) :=
  List.foldl_append

/-- All values of an update under their paths, in the order in which they are written. -/
def writes (change : Document) : Document :=
  change.flatMap fun entry => match entry.2 with
    | .document fields => fields
    | _ => []

theorem writes_cons (op : String) (fields change : Document) :
    writes ((op, .document fields) :: change) = fields ++ writes change := rfl

/-- A value that is written stands in a document of the update. -/
theorem exists_of_mem_writes {change : Document} {entry : String × Bson}
    (h : entry ∈ writes change) :
    ∃ op fields, (op, Bson.document fields) ∈ change ∧ entry ∈ fields := by
  obtain ⟨⟨op, operand⟩, hmem, hentry⟩ := List.mem_flatMap.mp h
  cases operand with
  | document fields => exact ⟨op, fields, hmem, hentry⟩
  | _ => exact absurd hentry List.not_mem_nil

/-- Every operator of the update sets fields, and none of these is the identity. -/
def Settable (change : Document) : Prop :=
  ∀ entry ∈ change, entry.1 = "$set" ∧
    ∃ fields : Document, entry.2 = .document fields ∧ storeIdentityKey ∉ fields.keys

theorem Settable.ne_of_mem_writes {change : Document} (h : Settable change) {path : String}
    (hpath : path ∈ (writes change).keys) : path ≠ storeIdentityKey := by
  rintro rfl
  obtain ⟨entry, hentry, hkey⟩ := List.mem_map.mp hpath
  obtain ⟨op, fields, hmem, hfields⟩ := exists_of_mem_writes hentry
  obtain ⟨-, own, hown, hnot⟩ := h _ hmem
  cases hown
  exact hnot (hkey ▸ List.mem_map_of_mem hfields)

theorem setFields_eq_ok_iff {fields d changed : Document} :
    setFields fields d = .ok changed ↔
      storeIdentityKey ∉ fields.keys ∧ changed = writeAll fields d := by
  induction fields generalizing d with
  | nil =>
    rw [setFields, Except.ok.injEq, eq_comm]
    exact (and_iff_right List.not_mem_nil).symm
  | cons entry rest ih =>
    obtain ⟨path, value⟩ := entry
    have hkeys : storeIdentityKey ∉ Document.keys ((path, value) :: rest) ↔
        path ≠ storeIdentityKey ∧ storeIdentityKey ∉ Document.keys rest := by
      rw [Document.keys, List.map_cons, List.mem_cons, not_or, ne_comm]
      rfl
    rw [setFields, hkeys, writeAll_cons]
    by_cases hpath : path = storeIdentityKey
    · rw [if_pos hpath]
      exact iff_of_false (by rintro ⟨⟩) fun h => h.1.1 hpath
    · rw [if_neg hpath, ih, and_iff_right hpath]

/-- An update sets the fields of its first operator, and goes on from there. -/
theorem applyUpdate_cons_eq_ok_iff {op : String} {operand : Bson} {rest d changed : Document} :
    applyUpdate ((op, operand) :: rest) d = .ok changed ↔
      ∃ fields first, op = "$set" ∧ operand = .document fields ∧
        setFields fields d = .ok first ∧ applyUpdate rest first = .ok changed := by
  constructor
  · intro h
    unfold applyUpdate at h
    split at h
    · rename_i fields
      cases hfirst : setFields fields d with
      | error e => rw [hfirst] at h; cases h
      | ok first =>
        rw [hfirst] at h
        exact ⟨fields, first, rfl, rfl, hfirst, h⟩
    · cases h
  · rintro ⟨fields, first, rfl, rfl, hfirst, hrest⟩
    rw [applyUpdate, hfirst]
    exact hrest

/-- **An update that is accepted writes its values, one after another.** -/
theorem applyUpdate_eq_ok_iff {change d changed : Document} :
    applyUpdate change d = .ok changed ↔
      Settable change ∧ changed = writeAll (writes change) d := by
  induction change generalizing d with
  | nil =>
    rw [applyUpdate, Except.ok.injEq, eq_comm]
    exact (and_iff_right fun _ h => absurd h List.not_mem_nil).symm
  | cons entry rest ih =>
    obtain ⟨op, operand⟩ := entry
    rw [applyUpdate_cons_eq_ok_iff, Settable, List.forall_mem_cons]
    constructor
    · rintro ⟨fields, first, rfl, rfl, hfirst, hrest⟩
      obtain ⟨hnot, rfl⟩ := setFields_eq_ok_iff.mp hfirst
      obtain ⟨hsettable, rfl⟩ := ih.mp hrest
      exact ⟨⟨⟨rfl, fields, rfl, hnot⟩, hsettable⟩, by rw [writes_cons, writeAll_append]⟩
    · rintro ⟨⟨⟨rfl, fields, rfl, hnot⟩, hsettable⟩, rfl⟩
      refine ⟨fields, writeAll fields d, rfl, rfl, setFields_eq_ok_iff.mpr ⟨hnot, rfl⟩, ?_⟩
      exact ih.mpr ⟨hsettable, by rw [writes_cons, writeAll_append]⟩

end Store

end Dossier
