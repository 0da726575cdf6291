/-
# Values that are alike

A document is read key by key, so that the order of its keys is of no account to a reader.  `Alike`
relates values that are equal up to this order, in every document inside them; if asked to, it also
takes integers of both widths for the same.  Only the scope of code keeps its widths, because code
is compared as it is stored.

Documents that are alike have alike values under each key (`alike_document_iff`), and so under each
path (`Path.alike_resolve`).  They stay alike if alike values are written at the same path
(`Path.alike_set`).
-/
import Dossier.Proofs.Converter.Parts
import Dossier.Proofs.Query.Apart
import Dossier.Query.Value

namespace Dossier

namespace Bson

/-! ## 1. The relation -/

/-- Equal up to the order of keys in all documents inside and, if the width of integers is of no
account, up to that outside the scopes of code. -/
inductive Alike : Prop → Bson → Bson → Prop
  | refl {anyWidth : Prop} (a : Bson) : Alike anyWidth a a
  | integer {anyWidth : Prop} {a b : Bson} {n : Int} (hwidth : anyWidth)
      (ha : a.number? = some (.int n)) (hb : b.number? = some (.int n)) : Alike anyWidth a b
  | array {anyWidth : Prop} {as bs : List Bson} (hlength : as.length = bs.length)
      (hitems : ∀ (i : Nat) a b, as[i]? = some a → bs[i]? = some b → Alike anyWidth a b) :
      Alike anyWidth (.array as) (.array bs)
  | document {anyWidth : Prop} {d e : Document} (hkeys : d.keys.Perm e.keys)
      (hvalues : ∀ key a b, d.get? key = some a → e.get? key = some b → Alike anyWidth a b) :
      Alike anyWidth (.document d) (.document e)
  | codeWithScope {anyWidth : Prop} (source : String) {d e : Document}
      (hscope : Alike False (.document d) (.document e)) :
      Alike anyWidth (.codeWithScope source d) (.codeWithScope source e)

/-- Equal up to the order of keys. -/
abbrev Reordered : Bson → Bson → Prop := Alike False

variable {anyWidth : Prop} {a b c : Bson}

theorem Alike.symm (h : Alike anyWidth a b) : Alike anyWidth b a := by
  induction h with
  | refl a => exact .refl a
  | integer hwidth ha hb => exact .integer hwidth hb ha
  | array hlength _ ih => exact .array hlength.symm fun i b a hb ha => ih i a b ha hb
  | document hkeys _ ih => exact .document hkeys.symm fun key b a hb ha => ih key a b ha hb
  | codeWithScope source _ ih => exact .codeWithScope source ih

theorem number?_eq_some_int_iff {n : Int} :
    a.number? = some (.int n) ↔
      (∃ m : Int32, a = .int32 m ∧ m.toInt = n) ∨ ∃ m : Int64, a = .int64 m ∧ m.toInt = n := by
  cases a <;> simp [number?]

/-- Only documents are like a document. -/
theorem Alike.exists_document {d : Document} (h : Alike anyWidth (.document d) b) :
    ∃ e, b = .document e := by
  cases h with
  | refl => exact ⟨d, rfl⟩
  | integer _ ha => cases ha
  | document => exact ⟨_, rfl⟩

theorem Alike.exists_array {as : List Bson} (h : Alike anyWidth (.array as) b) :
    ∃ bs, b = .array bs := by
  cases h with
  | refl => exact ⟨as, rfl⟩
  | integer _ ha => cases ha
  | array => exact ⟨_, rfl⟩

theorem Alike.exists_codeWithScope {source : String} {d : Document}
    (h : Alike anyWidth (.codeWithScope source d) b) :
    ∃ e, b = .codeWithScope source e ∧ Alike False (.document d) (.document e) := by
  cases h with
  | refl => exact ⟨d, rfl, .refl _⟩
  | integer _ ha => cases ha
  | codeWithScope _ hscope => exact ⟨_, rfl, hscope⟩

theorem alike_array_iff {as bs : List Bson} :
    Alike anyWidth (.array as) (.array bs) ↔ List.Forall₂ (Alike anyWidth) as bs := by
  rw [forall₂_iff_getElem?]
  constructor
  · intro h
    cases h with
    | refl =>
      refine ⟨rfl, fun i a b ha hb => ?_⟩
      cases ha.symm.trans hb
      exact .refl a
    | integer _ ha => cases ha
    | array hlength hitems => exact ⟨hlength, hitems⟩
  · exact fun ⟨hlength, hitems⟩ => .array hlength hitems

end Bson

namespace Document

/-- The same keys in any order, and under each of them values that are alike. -/
structure Alike (anyWidth : Prop) (d e : Document) : Prop where
  keys : d.keys.Perm e.keys
  values : ∀ key, Option.Rel (Bson.Alike anyWidth) (d.get? key) (e.get? key)

variable {anyWidth : Prop} {d e : Document}

theorem Alike.length_eq (h : d.Alike anyWidth e) : d.length = e.length := by
  have hlength := h.keys.length_eq
  rwa [Document.keys, Document.keys, List.length_map, List.length_map] at hlength

theorem Alike.get?_of_some (h : d.Alike anyWidth e) {key : String} {a : Bson}
    (ha : d.get? key = some a) : ∃ b, e.get? key = some b ∧ a.Alike anyWidth b := by
  have hrel := h.values key
  rw [ha] at hrel
  cases he : e.get? key with
  | none => rw [he] at hrel; cases hrel
  | some b =>
    rw [he] at hrel
    cases hrel with
    | some hab => exact ⟨b, rfl, hab⟩

end Document

namespace Bson

variable {anyWidth : Prop}

/-- Documents with the same keys lack the same keys. -/
theorem rel_get?_iff {R : Bson → Bson → Prop} {d e : Document} (hkeys : d.keys.Perm e.keys)
    (key : String) :
    Option.Rel R (d.get? key) (e.get? key) ↔
      ∀ a b, d.get? key = some a → e.get? key = some b → R a b := by
  have hsome : (d.get? key).isSome ↔ (e.get? key).isSome := by
    rw [← Document.mem_keys_iff_get?, ← Document.mem_keys_iff_get?, hkeys.mem_iff]
  cases hd : d.get? key <;> cases he : e.get? key <;> simp_all

theorem alike_document_iff {d e : Document} :
    Alike anyWidth (.document d) (.document e) ↔ d.Alike anyWidth e := by
  constructor
  · intro h
    cases h with
    | refl =>
      refine ⟨.refl _, fun key => (rel_get?_iff (.refl _) key).mpr fun a b ha hb => ?_⟩
      cases Option.some.inj (ha.symm.trans hb)
      exact .refl a
    | integer _ ha => cases ha
    | document hkeys hvalues =>
      exact ⟨hkeys, fun key => (rel_get?_iff hkeys key).mpr (hvalues key)⟩
  · intro h
    exact .document h.keys fun key => (rel_get?_iff h.keys key).mp (h.values key)

theorem Alike.trans {a b c : Bson} (hab : Alike anyWidth a b) (hbc : Alike anyWidth b c) :
    Alike anyWidth a c := by
  induction hab generalizing c with
  | refl => exact hbc
  | integer hwidth ha hb =>
    cases hbc with
    | refl => exact .integer hwidth ha hb
    | integer _ hb' hc =>
      cases hb.symm.trans hb'
      exact .integer hwidth ha hc
    | array | document | codeWithScope => cases hb
  | @array _ as bs hlength _ ih =>
    obtain ⟨cs, rfl⟩ := hbc.exists_array
    obtain ⟨hlength', hitems⟩ := forall₂_iff_getElem?.mp (alike_array_iff.mp hbc)
    refine .array (hlength.trans hlength') fun i a c ha hc => ?_
    obtain ⟨hi, -⟩ := List.getElem?_eq_some_iff.mp hc
    have hb := List.getElem?_eq_getElem (hlength' ▸ hi)
    exact ih i a _ ha hb (hitems i _ c hb hc)
  | @document _ d e hkeys _ ih =>
    obtain ⟨f, rfl⟩ := hbc.exists_document
    have hef := alike_document_iff.mp hbc
    refine .document (hkeys.trans hef.keys) fun key a c ha hc => ?_
    obtain ⟨b, hb, hcb⟩ := (alike_document_iff.mp hbc.symm).get?_of_some hc
    exact ih key a b ha hb hcb.symm
  | codeWithScope source _ ih =>
    obtain ⟨f, rfl, hscope⟩ := hbc.exists_codeWithScope
    exact .codeWithScope source (ih hscope)

end Bson

/-! ## 2. Writing and reading -/

namespace Document

variable {anyWidth : Prop} {d e f : Document}

theorem Alike.refl (d : Document) : d.Alike anyWidth d :=
  Bson.alike_document_iff.mp (.refl _)

theorem Alike.symm (h : d.Alike anyWidth e) : e.Alike anyWidth d :=
  Bson.alike_document_iff.mp (Bson.alike_document_iff.mpr h).symm

theorem Alike.trans (hde : d.Alike anyWidth e) (hef : e.Alike anyWidth f) : d.Alike anyWidth f :=
  Bson.alike_document_iff.mp
    ((Bson.alike_document_iff.mpr hde).trans (Bson.alike_document_iff.mpr hef))

/-- A document is like each arrangement of its fields. -/
theorem alike_of_perm (hd : d.keys.Nodup) (h : d.Perm e) : d.Alike anyWidth e where
  keys := h.map Prod.fst
  values key := by
    have hget : d.get? key = e.get? key := Option.ext fun v =>
      ⟨fun hv => get?_of_mem ((h.map Prod.fst).nodup_iff.mp hd) (h.mem_iff.mp (mem_of_get? hv)),
        fun hv => get?_of_mem hd (h.mem_iff.mpr (mem_of_get? hv))⟩
    rw [← hget]
    exact (Alike.refl d).values key

theorem Alike.cons (h : d.Alike anyWidth e) (key : String) {a b : Bson}
    (hab : a.Alike anyWidth b) : Document.Alike anyWidth ((key, a) :: d) ((key, b) :: e) where
  keys := h.keys.cons key
  values other := by
    rw [get?_cons, get?_cons]
    split
    · exact .some hab
    · exact h.values other

theorem Alike.insert (h : d.Alike anyWidth e) (key : String) {a b : Bson}
    (hab : a.Alike anyWidth b) : (d.insert key a).Alike anyWidth (e.insert key b) where
  keys := by
    rw [keys_insert, keys_insert]
    simp only [h.keys.mem_iff]
    split
    · exact h.keys
    · exact h.keys.append_right [key]
  values other := by
    by_cases hkey : key = other
    · subst hkey
      rw [get?_insert_self, get?_insert_self]
      exact .some hab
    · rw [get?_insert_of_ne d a hkey, get?_insert_of_ne e b hkey]
      exact h.values other

/-- Of two values for one key, the later one stays. -/
theorem insert_insert_self (d : Document) (key : String) (a b : Bson) :
    (d.insert key a).insert key b = d.insert key b := by
  induction d with
  | nil => simp [insert]
  | cons entry rest ih =>
    obtain ⟨k, v⟩ := entry
    by_cases hk : k = key <;> simp [insert, hk, ih]

/-- Two keys may be set in either order. -/
theorem alike_insert_comm {key other : String} (hne : key ≠ other) (a b : Bson) (d : Document) :
    ((d.insert key a).insert other b).Alike anyWidth ((d.insert other b).insert key a) where
  keys := by
    have hother : other ∈ (d.insert key a).keys ↔ other ∈ d.keys := by
      rw [mem_keys_iff_get?, get?_insert_of_ne d a hne, ← mem_keys_iff_get?]
    have hkey : key ∈ (d.insert other b).keys ↔ key ∈ d.keys := by
      rw [mem_keys_iff_get?, get?_insert_of_ne d b hne.symm, ← mem_keys_iff_get?]
    rw [keys_insert (d.insert key a) other, keys_insert (d.insert other b) key]
    simp only [hother, hkey]
    rw [keys_insert d key, keys_insert d other]
    split <;> split
    · exact .refl _
    · exact .refl _
    · exact .refl _
    · rw [List.append_assoc, List.append_assoc]
      exact (List.Perm.swap other key []).append_left d.keys
  values read := by
    by_cases hkey : key = read
    · subst hkey
      rw [get?_insert_of_ne _ b hne.symm, get?_insert_self, get?_insert_self]
      exact .some (.refl a)
    · rw [get?_insert_of_ne _ a hkey]
      by_cases hother : other = read
      · subst hother
        rw [get?_insert_self, get?_insert_self]
        exact .some (.refl b)
      · rw [get?_insert_of_ne _ b hother, get?_insert_of_ne _ b hother, get?_insert_of_ne d a hkey]
        exact (Alike.refl d).values read

end Document

namespace Path

variable {anyWidth : Prop} {d e : Document}

theorem alike_inner {found other : Option Bson}
    (h : Option.Rel (Bson.Alike anyWidth) found other) :
    (inner found).Alike anyWidth (inner other) := by
  cases h with
  | none => exact .refl []
  | @some a b h =>
    by_cases hdocument : ∃ d, a = .document d
    · obtain ⟨d, rfl⟩ := hdocument
      obtain ⟨e, rfl⟩ := h.exists_document
      exact Bson.alike_document_iff.mp h
    · have hother : ¬ ∃ e, b = .document e := by
        rintro ⟨e, rfl⟩
        exact hdocument h.symm.exists_document
      have hinner (v : Bson) (hv : ¬ ∃ d, v = .document d) : inner (some v) = [] := by
        cases v with
        | document d => exact absurd ⟨d, rfl⟩ hv
        | _ => rfl
      rw [hinner a hdocument, hinner b hother]
      exact .refl []

/-- Documents that are alike have alike values at each path. -/
theorem alike_resolve (h : d.Alike anyWidth e) (path : List String) :
    Option.Rel (Bson.Alike anyWidth) (resolve path d) (resolve path e) := by
  induction path generalizing d e with
  | nil => exact .none
  | cons key rest ih =>
    rw [resolve_cons, resolve_cons]
    cases rest with
    | nil => exact h.values key
    | cons next more => exact ih (alike_inner (h.values key))

theorem alike_set (h : d.Alike anyWidth e) (path : List String) (value : Bson) :
    (set path value d).Alike anyWidth (set path value e) := by
  induction path generalizing d e with
  | nil => exact h
  | cons key rest ih =>
    rw [set_cons, set_cons]
    refine h.insert key ?_
    cases rest with
    | nil => exact .refl value
    | cons next more => exact Bson.alike_document_iff.mpr (ih (alike_inner (h.values key)))

/-- **Writes at paths that lie apart may change places.** -/
theorem alike_set_comm {path other : List String} (h : Apart path other) (a b : Bson)
    (d : Document) :
    (set other b (set path a d)).Alike anyWidth (set path a (set other b d)) := by
  induction path generalizing other d with
  | nil => exact absurd List.nil_prefix h.1
  | cons key rest ih =>
    obtain ⟨_, _, first, more, ⟨⟩, rfl⟩ := h.exists_cons
    by_cases hkey : key = first
    · subst hkey
      have happart := apart_cons_iff.mp h
      obtain ⟨next, rest, second, more, rfl, rfl⟩ := happart.exists_cons
      have htwice (a b : Bson) : (d.insert key a).insert key b = d.insert key b :=
        d.insert_insert_self key a b
      simp only [set_cons key, Document.get?_insert_self, htwice]
      exact (Document.Alike.refl d).insert key
        (Bson.alike_document_iff.mpr (ih happart (inner (d.get? key))))
    · rw [set_cons, set_cons, set_cons, set_cons, Document.get?_insert_of_ne d _ hkey,
        Document.get?_insert_of_ne d _ (Ne.symm hkey)]
      exact Document.alike_insert_comm hkey _ _ d

end Path

end Dossier
