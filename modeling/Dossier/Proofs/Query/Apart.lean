/-
# Paths that lie apart

Two paths lie apart if neither begins with the other, segment by segment.  A write at one of them
cannot be seen at the other (`resolve_set_of_apart`).  This holds in every document, also where the
write makes documents of what is in its way: what it replaces there was no document, so that no
other path led through it either.

Where paths do not lie apart, a write can be seen, but only through what the other path led to
before: `resolve_set_congr`.

A write and a reading take their first step alike, at a key, and go on in the document that is its
value (`set_cons`, `resolve_cons`).  The inductions below follow this step.
-/
import Dossier.Proofs.Query.Path

namespace Dossier

namespace Path

/-! ## 1. The first step -/

/-- The document in which a path goes on from a value: that value, or an empty one. -/
def inner : Option Bson → Document
  | some (.document d) => d
  | _ => []

/-- The value of a key after a write at the segments behind it. -/
def placed (rest : List String) (value : Bson) (old : Option Bson) : Bson :=
  match rest with
  | [] => value
  | _ :: _ => .document (set rest value (inner old))

/-- What the segments behind a key lead to, from the value of the key. -/
def below (rest : List String) (found : Option Bson) : Option Bson :=
  match rest with
  | [] => found
  | _ :: _ => resolve rest (inner found)

theorem set_cons (key : String) (rest : List String) (value : Bson) (d : Document) :
    set (key :: rest) value d = d.insert key (placed rest value (d.get? key)) := by
  cases rest <;> rfl

theorem resolve_empty (segments : List String) : resolve segments [] = none := by
  match segments with
  | [] | [_] | _ :: _ :: _ => rfl

theorem resolve_cons (key : String) (rest : List String) (d : Document) :
    resolve (key :: rest) d = below rest (d.get? key) := by
  cases rest with
  | nil => rfl
  | cons next more =>
    rw [resolve, below]
    · split
      · rename_i inside h
        rw [h, inner]
      · rename_i h
        rw [inner, resolve_empty]
        exact h
    · exact List.cons_ne_nil next more

/-! ## 2. Reading after a write -/

/-- Neither path begins with the other. -/
def Apart (p q : List String) : Prop := ¬ p <+: q ∧ ¬ q <+: p

instance (p q : List String) : Decidable (Apart p q) := inferInstanceAs (Decidable (_ ∧ _))

theorem Apart.symm {p q : List String} (h : Apart p q) : Apart q p := ⟨h.2, h.1⟩

theorem apart_cons_iff {key : String} {p q : List String} :
    Apart (key :: p) (key :: q) ↔ Apart p q := by
  unfold Apart
  rw [List.prefix_cons_inj, List.prefix_cons_inj]

/-- Paths that lie apart part at some key, so each of them has one. -/
theorem Apart.exists_cons {p q : List String} (h : Apart p q) :
    ∃ key rest other more, p = key :: rest ∧ q = other :: more := by
  cases p with
  | nil => exact absurd List.nil_prefix h.1
  | cons key rest =>
    cases q with
    | nil => exact absurd List.nil_prefix h.2
    | cons other more => exact ⟨key, rest, other, more, rfl, rfl⟩

/-- A path leads to what was written at its end. -/
theorem resolve_set_self {path : List String} (hpath : path ≠ []) (value : Bson) (d : Document) :
    resolve path (set path value d) = some value := by
  induction path generalizing d with
  | nil => exact absurd rfl hpath
  | cons key rest ih =>
    rw [resolve_cons, set_cons, Document.get?_insert_self]
    cases rest with
    | nil => rfl
    | cons next more => exact ih (List.cons_ne_nil next more) _

/-- **A write is not seen from a path that lies apart.** -/
theorem resolve_set_of_apart {written path : List String} (h : Apart written path) (value : Bson)
    (d : Document) : resolve path (set written value d) = resolve path d := by
  induction written generalizing path d with
  | nil => exact absurd List.nil_prefix h.1
  | cons key rest ih =>
    obtain ⟨_, _, other, more, ⟨⟩, rfl⟩ := h.exists_cons
    rw [resolve_cons, resolve_cons, set_cons]
    by_cases hkey : key = other
    · subst hkey
      obtain ⟨next, rest, other, more, rfl, rfl⟩ := (apart_cons_iff.mp h).exists_cons
      rw [Document.get?_insert_self]
      exact ih (apart_cons_iff.mp h) _
    · rw [Document.get?_insert_of_ne d _ hkey]

/-- What a path leads to after a write depends on what it led to before, and on nothing else. -/
theorem resolve_set_congr {path : List String} (hpath : path ≠ []) {d e : Document}
    (h : resolve path d = resolve path e) (written : List String) (value : Bson) :
    resolve path (set written value d) = resolve path (set written value e) := by
  induction written generalizing path d e with
  | nil => exact h
  | cons key rest ih =>
    obtain ⟨other, more, rfl⟩ := List.exists_cons_of_ne_nil hpath
    rw [resolve_cons, resolve_cons] at h
    rw [resolve_cons, resolve_cons, set_cons, set_cons]
    by_cases hkey : key = other
    · subst hkey
      rw [Document.get?_insert_self, Document.get?_insert_self]
      cases rest with
      | nil => rfl
      | cons next rest =>
        cases more with
        | nil =>
          have hvalue : d.get? key = e.get? key := h
          rw [hvalue]
        | cons other more => exact ih (List.cons_ne_nil other more) h
    · rw [Document.get?_insert_of_ne d _ hkey, Document.get?_insert_of_ne e _ hkey, h]

/-! ## 3. Reading after several writes -/

/-- A path, and a value that is written at its end. -/
abbrev Write : Type := List String × Bson

/-- Writes values at the ends of their paths, one after another. -/
def setAll (writes : List Write) (d : Document) : Document :=
  writes.foldl (fun d write => set write.1 write.2 d) d

@[simp] theorem setAll_nil (d : Document) : setAll [] d = d := rfl

@[simp] theorem setAll_cons (write : Write) (rest : List Write) (d : Document) :
    setAll (write :: rest) d = setAll rest (set write.1 write.2 d) := rfl

theorem setAll_append (writes others : List Write) (d : Document) :
    setAll (writes ++ others) d = setAll others (setAll writes d) :=
  List.foldl_append

variable {writes : List Write} {path : List String}

theorem resolve_setAll_of_apart (h : ∀ write ∈ writes, Apart write.1 path) (d : Document) :
    resolve path (setAll writes d) = resolve path d := by
  induction writes generalizing d with
  | nil => rfl
  | cons write rest ih =>
    obtain ⟨hwrite, hrest⟩ := List.forall_mem_cons.mp h
    rw [setAll_cons, ih hrest, resolve_set_of_apart hwrite]

/-- Each of several paths that lie apart leads to what was written at its end. -/
theorem resolve_setAll_of_pairwise (hne : ∀ write ∈ writes, write.1 ≠ [])
    (hapart : writes.Pairwise fun write other => Apart write.1 other.1) (d : Document) :
    ∀ write ∈ writes, resolve write.1 (setAll writes d) = some write.2 := by
  induction writes generalizing d with
  | nil => exact fun _ h => absurd h List.not_mem_nil
  | cons first rest ih =>
    obtain ⟨hfirst, hrest⟩ := List.pairwise_cons.mp hapart
    obtain ⟨hnil, hne⟩ := List.forall_mem_cons.mp hne
    refine List.forall_mem_cons.mpr ⟨?_, ih hne hrest _⟩
    rw [setAll_cons, resolve_setAll_of_apart fun write hwrite => (hfirst write hwrite).symm,
      resolve_set_self hnil]

theorem resolve_setAll_congr (hpath : path ≠ []) (writes : List Write) {d e : Document}
    (h : resolve path d = resolve path e) :
    resolve path (setAll writes d) = resolve path (setAll writes e) := by
  induction writes generalizing d e with
  | nil => exact h
  | cons write rest ih => exact ih (resolve_set_congr hpath h write.1 write.2)

/-- A path that is written leads to the same value whatever the document was before. -/
theorem resolve_setAll_of_mem {write : Write} (hmem : write ∈ writes)
    (hne : write.1 ≠ []) (d e : Document) :
    resolve write.1 (setAll writes d) = resolve write.1 (setAll writes e) := by
  obtain ⟨before, after, rfl⟩ := List.append_of_mem hmem
  rw [setAll_append, setAll_append, setAll_cons, setAll_cons]
  refine resolve_setAll_congr hne after ?_
  rw [resolve_set_self hne, resolve_set_self hne]

end Path

end Dossier
