/-
# Updates that are repeated or change places

An update that sets fields can be applied again without any effect, whichever of its paths overlap
(`Path.setAll_setAll`).  Two updates can change places if each path of one lies apart from each
path of the other, but for the order of keys (`Path.alike_setAll_comm`): then neither of them
takes back what the other one has set.

A single write can be repeated, but this alone does not carry over to several: a later write may
undo an earlier one, which the repetition does again.  So the proof goes key by key.  The writes
behind a key make a value of its value (`placeAll`), and those behind other keys do not see it
(`setAll_cons_entry`).  If one of the writes ends at the key, the value does not depend on the one
before; if not, it is a document, and the claim for it is one about shorter paths.

Main statement: `Store.set_again_and_swapped`.
-/
import Dossier.Proofs.Bson.Reordering
import Dossier.Proofs.Store.Setting
import Mathlib.Algebra.Order.BigOperators.Group.List
import Mathlib.Algebra.Order.Group.Nat

namespace Dossier

namespace Path

/-! ## 1. Writes by their first key -/

/-- The writes that go by a key, with what is behind the key in their paths. -/
def behind (key : String) (writes : List Write) : List Write :=
  writes.filterMap fun write => match write.1 with
    | first :: rest => if first = key then some (rest, write.2) else none
    | [] => none

/-- The writes that do not go by a key. -/
def beside (key : String) (writes : List Write) : List Write :=
  writes.filter fun write => write.1.head? ≠ some key

/-- The value of a key after writes behind it. -/
def placeAll (writes : List Write) (old : Bson) : Bson :=
  writes.foldl (fun old write => placed write.1 write.2 (some old)) old

theorem placeAll_cons (write : Write) (rest : List Write) (old : Bson) :
    placeAll (write :: rest) old = placeAll rest (placed write.1 write.2 (some old)) := rfl

theorem behind_cons_self (key : String) (path : List String) (value : Bson) (writes : List Write) :
    behind key ((key :: path, value) :: writes) = (path, value) :: behind key writes := by
  simp [behind]

theorem behind_cons_of_ne {first key : String} (h : first ≠ key) (path : List String)
    (value : Bson) (writes : List Write) :
    behind key ((first :: path, value) :: writes) = behind key writes := by
  simp [behind, h]

theorem length_beside_le (key : String) (writes : List Write) :
    (beside key writes).length ≤ writes.length :=
  List.length_filter_le _ _

theorem beside_cons_self (key : String) (path : List String) (value : Bson) (writes : List Write) :
    beside key ((key :: path, value) :: writes) = beside key writes := by
  simp [beside]

theorem mem_behind {key : String} {writes : List Write} {write : Write}
    (h : write ∈ behind key writes) : (key :: write.1, write.2) ∈ writes := by
  obtain ⟨⟨path, value⟩, hmem, hwrite⟩ := List.mem_filterMap.mp h
  cases path with
  | nil => cases hwrite
  | cons first rest =>
    simp only [Option.ite_none_right_eq_some] at hwrite
    obtain ⟨rfl, hwrite⟩ := hwrite
    cases hwrite
    exact hmem

/-- A key goes its own way: its value is made by the writes behind it, and the others write to the
rest of the document. -/
theorem setAll_cons_entry (key : String) (value : Bson) (rest : Document) (writes : List Write) :
    setAll writes ((key, value) :: rest) =
      (key, placeAll (behind key writes) value) :: setAll (beside key writes) rest := by
  induction writes generalizing value rest with
  | nil => rfl
  | cons write others ih =>
    obtain ⟨path, written⟩ := write
    cases path with
    | nil => exact ih value rest
    | cons first more =>
      rw [setAll_cons, set_cons]
      by_cases hfirst : first = key
      · subst hfirst
        rw [behind_cons_self, placeAll_cons, Document.get?_cons, if_pos rfl, Document.insert,
          if_pos rfl, ih]
        simp [beside]
      · rw [behind_cons_of_ne hfirst, Document.get?_cons, if_neg (Ne.symm hfirst), Document.insert,
          if_neg (Ne.symm hfirst), ih]
        simp [beside, hfirst, set_cons]

/-- An empty document takes a first write as one that has its key, with nothing below it. -/
theorem set_empty (key : String) (rest : List String) (value : Bson) :
    set (key :: rest) value [] = set (key :: rest) value [(key, .null)] := by
  rw [set_cons, set_cons, Document.get?_cons, if_pos rfl, Document.insert, Document.insert,
    if_pos rfl]
  cases rest <;> rfl

/-! ## 2. Repeating -/

/-- Writes none of which ends at the key make a document of its value. -/
theorem placeAll_eq_document {write : Write} {rest : List Write}
    (hne : ∀ w ∈ write :: rest, w.1 ≠ []) (old : Bson) :
    placeAll (write :: rest) old = .document (setAll (write :: rest) (inner (some old))) := by
  induction rest generalizing write old with
  | nil =>
    obtain ⟨first, more, hpath⟩ := List.exists_cons_of_ne_nil (hne write List.mem_cons_self)
    rw [placeAll_cons, setAll_cons, hpath]
    rfl
  | cons next rest ih =>
    obtain ⟨hwrite, hrest⟩ := List.forall_mem_cons.mp hne
    obtain ⟨first, more, hpath⟩ := List.exists_cons_of_ne_nil hwrite
    rw [placeAll_cons, ih hrest, setAll_cons write, hpath]
    rfl

/-- A write that ends at the key makes its value independent of what it was. -/
theorem placeAll_append_end (before after : List Write) (value old : Bson) :
    placeAll (before ++ ([], value) :: after) old = placeAll after value := by
  rw [placeAll, List.foldl_append]
  rfl

/-- The writes behind a key can be repeated if they can as writes to a document. -/
theorem placeAll_placeAll {writes : List Write}
    (h : ∀ d, setAll writes (setAll writes d) = setAll writes d) (old : Bson) :
    placeAll writes (placeAll writes old) = placeAll writes old := by
  by_cases hend : ∃ value, ([], value) ∈ writes
  · obtain ⟨value, hmem⟩ := hend
    obtain ⟨before, after, rfl⟩ := List.append_of_mem hmem
    rw [placeAll_append_end, placeAll_append_end]
  · have hne : ∀ w ∈ writes, w.1 ≠ [] := fun w hw hnil => hend ⟨w.2, hnil ▸ hw⟩
    cases writes with
    | nil => rfl
    | cons write rest =>
      rw [placeAll_eq_document hne old, placeAll_eq_document hne]
      exact congrArg Bson.document (h _)

/-- Writes can be repeated on a document if they can on the value of its first key and on the
rest. -/
theorem setAll_setAll_entry {key : String} {value : Bson} {rest : Document} {writes : List Write}
    (hvalue : placeAll (behind key writes) (placeAll (behind key writes) value) =
      placeAll (behind key writes) value)
    (hrest : setAll (beside key writes) (setAll (beside key writes) rest) =
      setAll (beside key writes) rest) :
    setAll writes (setAll writes ((key, value) :: rest)) =
      setAll writes ((key, value) :: rest) := by
  rw [setAll_cons_entry, setAll_cons_entry, hvalue, hrest]

/-- The induction on the document, with the values of keys as given.  Where the document is empty,
it has the key of the first write afterwards, and one write is less for what follows. -/
theorem setAll_setAll_of_behind {n : Nat}
    (hshorter : ∀ writes : List Write, (∀ w ∈ writes, w.1.length < n) → ∀ d,
      setAll writes (setAll writes d) = setAll writes d)
    (writes : List Write) (hwrites : ∀ w ∈ writes, w.1.length < n + 1) (d : Document) :
    setAll writes (setAll writes d) = setAll writes d := by
  have hvalue (key : String) (value : Bson) := by
    refine placeAll_placeAll (hshorter (behind key writes) fun w hw => ?_) value
    exact Nat.lt_of_succ_lt_succ (hwrites _ (mem_behind hw))
  have hbeside (key : String) : ∀ w ∈ beside key writes, w.1.length < n + 1 := fun w hw =>
    hwrites w (List.mem_of_mem_filter hw)
  match d, writes with
  | (key, value) :: rest, writes =>
    exact setAll_setAll_entry (hvalue key value)
      (setAll_setAll_of_behind hshorter _ (hbeside key) rest)
  | [], [] => rfl
  | [], ([], _) :: others =>
    exact setAll_setAll_of_behind hshorter others (List.forall_mem_cons.mp hwrites).2 []
  | [], (key :: path, value) :: others =>
    have hempty : setAll ((key :: path, value) :: others) [] =
        setAll ((key :: path, value) :: others) [(key, .null)] :=
      congrArg (setAll others) (set_empty key path value)
    rw [hempty]
    exact setAll_setAll_entry (hvalue key .null)
      (setAll_setAll_of_behind hshorter _ (hbeside key) [])
termination_by writes.length + d.length
decreasing_by
  · have := length_beside_le key writes
    simp only [List.length_cons]
    omega
  · simp
  · have := length_beside_le key others
    simp only [beside_cons_self, List.length_cons]
    omega

/-- **Writes can be repeated without any effect.**  The induction is on the length of the longest
path. -/
theorem setAll_setAll (writes : List Write) (d : Document) :
    setAll writes (setAll writes d) = setAll writes d := by
  have hall (n : Nat) : ∀ writes : List Write, (∀ w ∈ writes, w.1.length < n) → ∀ d,
      setAll writes (setAll writes d) = setAll writes d := by
    induction n with
    | zero =>
      intro writes h d
      rw [List.eq_nil_iff_forall_not_mem.mpr fun w hw => Nat.not_lt_zero _ (h w hw)]
      rfl
    | succ n ih => exact setAll_setAll_of_behind ih
  refine hall ((writes.map fun w => w.1.length).sum + 1) writes (fun w hw => ?_) d
  refine Nat.lt_succ_of_le (List.single_le_sum (fun _ _ => Nat.zero_le _) _ ?_)
  exact List.mem_map_of_mem (f := fun w : Write => w.1.length) hw

/-! ## 3. Changing places -/

theorem alike_setAll {anyWidth : Prop} {d e : Document} (h : d.Alike anyWidth e)
    (writes : List Write) : (setAll writes d).Alike anyWidth (setAll writes e) := by
  induction writes generalizing d e with
  | nil => exact h
  | cons write rest ih => exact ih (alike_set h write.1 write.2)

theorem alike_setAll_set {anyWidth : Prop} {path : List String} {writes : List Write}
    (h : ∀ w ∈ writes, Apart path w.1) (value : Bson) (d : Document) :
    (setAll writes (set path value d)).Alike anyWidth (set path value (setAll writes d)) := by
  induction writes generalizing d with
  | nil => exact .refl _
  | cons write rest ih =>
    obtain ⟨hwrite, hrest⟩ := List.forall_mem_cons.mp h
    exact (alike_setAll (alike_set_comm hwrite value write.2 d) rest).trans (ih hrest _)

/-- **Two series of writes may change places** if each path of one lies apart from each path of the
other. -/
theorem alike_setAll_comm {anyWidth : Prop} {writes others : List Write}
    (h : ∀ w ∈ writes, ∀ o ∈ others, Apart w.1 o.1) (d : Document) :
    (setAll others (setAll writes d)).Alike anyWidth (setAll writes (setAll others d)) := by
  induction writes generalizing d with
  | nil => exact .refl _
  | cons write rest ih =>
    obtain ⟨hwrite, hrest⟩ := List.forall_mem_cons.mp h
    exact (ih hrest _).trans (alike_setAll (alike_setAll_set hwrite write.2 d) rest)

end Path

/-! ## 4. Updates -/

namespace Store

/-- Two updates that set fields of a document, in either order.  If one of them names the identity,
both orders are refused.  If not, both give the same document up to the order of keys, and there
each path leads to the value to which it leads after the one update that sets it. -/
structure Swapped (fields others d : Document) : Prop where
  refused : storeIdentityKey ∈ fields.keys ∨ storeIdentityKey ∈ others.keys →
    (applyUpdate [("$set", .document fields)] d >>= applyUpdate [("$set", .document others)]) =
      .error .identityUpdate ∧
    (applyUpdate [("$set", .document others)] d >>= applyUpdate [("$set", .document fields)]) =
      .error .identityUpdate
  applied : storeIdentityKey ∉ fields.keys → storeIdentityKey ∉ others.keys →
    ∃ first second both swapped : Document,
      applyUpdate [("$set", .document fields)] d = .ok first ∧
      applyUpdate [("$set", .document others)] first = .ok both ∧
      applyUpdate [("$set", .document others)] d = .ok second ∧
      applyUpdate [("$set", .document fields)] second = .ok swapped ∧
      (Bson.document both).Reordered (.document swapped) ∧
      (∀ path ∈ fields.keys, ∀ result ∈ [both, swapped],
        Path.resolve (Path.segments path) result = Path.resolve (Path.segments path) first) ∧
      ∀ path ∈ others.keys, ∀ result ∈ [both, swapped],
        Path.resolve (Path.segments path) result = Path.resolve (Path.segments path) second

/-- Of two updates one after the other, neither is applied if one of them names the identity. -/
theorem applyUpdate_bind_refused {fields others : Document} (d : Document)
    (h : storeIdentityKey ∈ fields.keys ∨ storeIdentityKey ∈ others.keys) :
    (applyUpdate [("$set", .document fields)] d >>= applyUpdate [("$set", .document others)]) =
      .error .identityUpdate := by
  rw [applyUpdate_set_eq]
  split
  · rfl
  · rename_i hfields
    show applyUpdate [("$set", .document others)] _ = _
    rw [applyUpdate_set_eq, if_pos (h.resolve_left hfields)]

theorem pathWrites_apart {fields others : Document}
    (h : ∀ p ∈ fields.keys, ∀ q ∈ others.keys, Path.Apart (Path.segments p) (Path.segments q)) :
    ∀ w ∈ pathWrites fields, ∀ o ∈ pathWrites others, Path.Apart w.1 o.1 :=
  forall_pathWrites (P := fun p => ∀ o ∈ pathWrites others, Path.Apart p o.1) fun p hp =>
    forall_pathWrites (P := (Path.Apart (Path.segments p) ·)) (h p hp)

/-- What one update sets stays as it is, whether the other one comes before or after it. -/
theorem resolve_of_apart {fields others : Document}
    (h : ∀ p ∈ fields.keys, ∀ q ∈ others.keys, Path.Apart (Path.segments p) (Path.segments q))
    (d : Document) {path : String} (hpath : path ∈ fields.keys) :
    Path.resolve (Path.segments path)
        (Path.setAll (pathWrites others) (Path.setAll (pathWrites fields) d)) =
      Path.resolve (Path.segments path) (Path.setAll (pathWrites fields) d) ∧
    Path.resolve (Path.segments path)
        (Path.setAll (pathWrites fields) (Path.setAll (pathWrites others) d)) =
      Path.resolve (Path.segments path) (Path.setAll (pathWrites fields) d) := by
  constructor
  · exact Path.resolve_setAll_of_apart
      (forall_pathWrites (P := (Path.Apart · (Path.segments path))) fun q hq =>
        (h path hpath q hq).symm) _
  · obtain ⟨entry, hentry, rfl⟩ := List.mem_map.mp hpath
    exact Path.resolve_setAll_of_mem (mem_pathWrites hentry) (Path.segments_ne_nil entry.1) _ _

theorem swapped_of_apart {fields others : Document}
    (h : ∀ p ∈ fields.keys, ∀ q ∈ others.keys, Path.Apart (Path.segments p) (Path.segments q))
    (d : Document) : Swapped fields others d where
  refused hnamed := ⟨applyUpdate_bind_refused d hnamed, applyUpdate_bind_refused d hnamed.symm⟩
  applied hfields hothers := by
    simp only [applyUpdate_set_eq, if_neg hfields, if_neg hothers]
    refine ⟨_, _, _, _, rfl, rfl, rfl, rfl, ?_, fun path hpath => ?_, fun path hpath => ?_⟩
    · exact Bson.alike_document_iff.mpr (Path.alike_setAll_comm (pathWrites_apart h) d)
    · simpa using resolve_of_apart h d hpath
    · simpa using (resolve_of_apart (fun q hq p hp => (h p hp q hq).symm) d hpath).symm

/-- **An update can be repeated, and updates of fields that lie apart can change places.** -/
theorem set_again_and_swapped :
    (∀ fields d : Document, storeIdentityKey ∉ fields.keys → ∃ once,
      applyUpdate [("$set", .document fields)] d = .ok once ∧
      applyUpdate [("$set", .document fields)] once = .ok once) ∧
    ∀ fields others d : Document,
      (∀ p ∈ fields.keys, ∀ q ∈ others.keys, Path.Apart (Path.segments p) (Path.segments q)) →
        Swapped fields others d := by
  refine ⟨fun fields d hfields => ?_, fun fields others d h => swapped_of_apart h d⟩
  simp only [applyUpdate_set_eq, if_neg hfields]
  exact ⟨_, rfl, congrArg Except.ok (Path.setAll_setAll _ _)⟩

namespace Example

/-- A value below a path, the path itself, and another value below it. -/
def overlapping : Document :=
  [("a.b", .int32 1), ("x", .null), ("a", .int32 2), ("a.c.", .int32 3)]

/-- Beside what `overlapping` sets, in the same document and elsewhere. -/
def nearby : Document := [("home.zip", .string "20095"), ("b", .int32 4)]

/-- A document without the path, where the writes of the other update put a document. -/
def home : Document := [("home.city", .string "Hamburg"), ("home.", .int32 5)]

/-- The overlapping fields can be set again, and the parts of one document can be set in either
order. -/
theorem set_again_and_swapped_home :
    (∃ once, applyUpdate [("$set", .document overlapping)] shapes = .ok once ∧
      applyUpdate [("$set", .document overlapping)] once = .ok once) ∧
    ∃ both swapped : Document,
      (applyUpdate [("$set", .document home)] [] >>= applyUpdate [("$set", .document nearby)]) =
        .ok both ∧
      (applyUpdate [("$set", .document nearby)] [] >>= applyUpdate [("$set", .document home)]) =
        .ok swapped ∧
      (Bson.document both).Reordered (.document swapped) ∧
      Path.resolve ["home", "zip"] swapped = some (.string "20095") := by
  obtain ⟨hagain, hswapped⟩ := set_again_and_swapped
  have hidentity : storeIdentityKey ∉ overlapping.keys := by decide
  refine ⟨hagain overlapping shapes hidentity, ?_⟩
  obtain ⟨first, second, both, swapped, hfirst, hboth, hsecond, hlast, hreordered, -, hothers⟩ :=
    (hswapped home nearby [] (by decide)).applied (by decide) (by decide)
  refine ⟨both, swapped, by rw [hfirst]; exact hboth, by rw [hsecond]; exact hlast, hreordered, ?_⟩
  have hzip := hothers "home.zip" (by decide) swapped (by simp)
  cases hsecond
  exact hzip

end Example

end Store

end Dossier
