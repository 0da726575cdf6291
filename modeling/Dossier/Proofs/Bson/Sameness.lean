/-
# Sameness reads the same from both sides

`Bson.same` looks for each field of the first document in the second one, so it is not symmetric on
lists of fields as such: a key that stands twice on one side can hide a key that is missing there.
A stored document has each key once, at every depth (`Bson.WellKeyed`), and on such values
sameness is symmetric (`same_comm`).

The operations on documents keep them well-keyed: `wellKeyed_insert`, and `wellKeyed_set` for a
value that is written at a path.
-/
import Dossier.Bson.Same
import Dossier.Query.Path
import Mathlib.Data.List.Perm.Subperm

namespace Dossier

/-! ## 1. Keys that stand once -/

namespace Bson

mutual

/-- Every document inside the value, be it the scope of code, and the value itself has each key
once. -/
def WellKeyed : Bson → Prop
  | .array items => WellKeyedItems items
  | .document fields => WellKeyedFields fields
  | .codeWithScope _ scope => WellKeyedFields scope
  | _ => True

def WellKeyedItems : List Bson → Prop
  | [] => True
  | item :: rest => WellKeyed item ∧ WellKeyedItems rest

def WellKeyedFields : List (String × Bson) → Prop
  | [] => True
  | (key, value) :: rest =>
    (∀ other ∈ rest, other.1 ≠ key) ∧ WellKeyed value ∧ WellKeyedFields rest

end

end Bson

namespace Document

/-- The document and every document inside it has each key once. -/
def WellKeyed (d : Document) : Prop := Bson.WellKeyedFields d

theorem mem_of_get? {d : Document} {key : String} {value : Bson} (h : d.get? key = some value) :
    (key, value) ∈ d := by
  induction d with
  | nil => simp at h
  | cons entry rest ih =>
    obtain ⟨k, v⟩ := entry
    rw [get?_cons] at h
    by_cases hk : k = key
    · rw [if_pos hk] at h
      cases h
      exact hk ▸ List.mem_cons_self
    · rw [if_neg hk] at h
      exact List.mem_cons_of_mem _ (ih h)

/-- A key that stands once leads to its value. -/
theorem get?_of_mem {d : Document} (hd : d.keys.Nodup) {key : String} {value : Bson}
    (h : (key, value) ∈ d) : d.get? key = some value := by
  induction d with
  | nil => cases h
  | cons entry rest ih =>
    obtain ⟨k, v⟩ := entry
    obtain ⟨hfresh, hrest⟩ := List.nodup_cons.mp hd
    rw [get?_cons]
    rcases List.mem_cons.mp h with heq | hmem
    · cases heq
      exact if_pos rfl
    · rw [if_neg fun e => hfresh (List.mem_map.mpr ⟨_, hmem, e.symm⟩)]
      exact ih hrest hmem

theorem WellKeyed.value {d : Document} (hd : d.WellKeyed) {entry : String × Bson}
    (h : entry ∈ d) : entry.2.WellKeyed := by
  induction d with
  | nil => cases h
  | cons first rest ih =>
    obtain ⟨k, v⟩ := first
    obtain ⟨-, hv, hrest⟩ := hd
    rcases List.mem_cons.mp h with rfl | hmem
    · exact hv
    · exact ih hrest hmem

theorem WellKeyed.nodup {d : Document} (hd : d.WellKeyed) : d.keys.Nodup := by
  induction d with
  | nil => exact List.nodup_nil
  | cons entry rest ih =>
    obtain ⟨k, v⟩ := entry
    obtain ⟨hfresh, -, hrest⟩ := hd
    refine List.nodup_cons.mpr ⟨fun hmem => ?_, ih hrest⟩
    obtain ⟨other, hother, heq⟩ := List.mem_map.mp hmem
    exact hfresh other hother heq

/-! ## 2. Writing keeps keys single -/

theorem mem_insert {d : Document} {key : String} {value : Bson} {entry : String × Bson}
    (h : entry ∈ d.insert key value) : entry = (key, value) ∨ entry ∈ d := by
  induction d with
  | nil => exact Or.inl (List.mem_singleton.mp h)
  | cons first rest ih =>
    obtain ⟨k, v⟩ := first
    unfold insert at h
    split at h
    · rcases List.mem_cons.mp h with h | h
      · exact Or.inl h
      · exact Or.inr (List.mem_cons_of_mem _ h)
    · rcases List.mem_cons.mp h with h | h
      · exact Or.inr (h ▸ List.mem_cons_self)
      · exact (ih h).imp id (List.mem_cons_of_mem _)

theorem wellKeyed_insert {d : Document} (hd : d.WellKeyed) (key : String) {value : Bson}
    (hvalue : value.WellKeyed) : (d.insert key value).WellKeyed := by
  induction d with
  | nil => exact ⟨fun _ h => absurd h List.not_mem_nil, hvalue, trivial⟩
  | cons entry rest ih =>
    obtain ⟨k, v⟩ := entry
    obtain ⟨hfresh, hv, hrest⟩ := hd
    unfold insert
    split
    · rename_i hk
      subst hk
      exact ⟨hfresh, hvalue, hrest⟩
    · rename_i hk
      refine ⟨fun other hother => ?_, hv, ih hrest⟩
      rcases mem_insert hother with rfl | hmem
      · exact fun e => hk e.symm
      · exact hfresh other hmem

/-- The document that a path goes on in is well-keyed, be it there or made. -/
theorem wellKeyed_inner {d : Document} (hd : d.WellKeyed) (key : String) :
    WellKeyed (match d.get? key with
      | some (.document inner) => inner
      | _ => []) := by
  split
  · rename_i inner h
    exact hd.value (mem_of_get? h)
  · trivial

theorem wellKeyed_set (segments : List String) {value : Bson} (hvalue : value.WellKeyed)
    {d : Document} (hd : d.WellKeyed) : WellKeyed (Path.set segments value d) := by
  induction segments generalizing d with
  | nil => exact hd
  | cons key rest ih =>
    cases rest with
    | nil => exact wellKeyed_insert hd key hvalue
    | cons next more => exact wellKeyed_insert hd key (ih (wellKeyed_inner hd key))

end Document

/-! ## 3. Sameness from the other side -/

namespace Bson

/-- A test that looks for each field of a document in another one. -/
theorem fieldwise_iff {F : Document → Document → Bool} {R : Bson → Bson → Bool}
    (hnil : ∀ e, F [] e = true)
    (hcons : ∀ k a rest e, F ((k, a) :: rest) e = ((Document.get? e k).any (R a) && F rest e))
    {d e : Document} :
    F d e = true ↔ ∀ entry ∈ d, ∃ b, Document.get? e entry.1 = some b ∧ R entry.2 b = true := by
  induction d with
  | nil => simp [hnil]
  | cons entry rest ih =>
    obtain ⟨k, a⟩ := entry
    rw [hcons, Bool.and_eq_true, ih, List.forall_mem_cons, Option.any_eq_true]

theorem sameFields_iff {fields other : Document} :
    sameFields fields other = true ↔
      ∀ entry ∈ fields, ∃ b, Document.get? other entry.1 = some b ∧ same entry.2 b = true := by
  refine fieldwise_iff (fun e => by rw [sameFields]) fun k a rest e => ?_
  rw [sameFields]
  cases Document.get? e k <;> rfl

/-- Of two documents of one size, the second has no key that the first lacks, if all keys of the
first are in it. -/
theorem mem_keys_of_sameFields {fields other : Document} (hfields : fields.WellKeyed)
    (hlength : fields.length = other.length) (h : sameFields fields other = true)
    {entry : String × Bson} (hentry : entry ∈ other) :
    ∃ a, Document.get? fields entry.1 = some a := by
  have hsub : fields.keys ⊆ other.keys := by
    intro key hkey
    obtain ⟨e, he, rfl⟩ := List.mem_map.mp hkey
    obtain ⟨b, hb, -⟩ := sameFields_iff.mp h e he
    exact List.mem_map.mpr ⟨(e.1, b), Document.mem_of_get? hb, rfl⟩
  have hle : other.keys.length ≤ fields.keys.length := by
    unfold Document.keys
    rw [List.length_map, List.length_map]
    exact Nat.le_of_eq hlength.symm
  have hperm : fields.keys.Perm other.keys :=
    (List.subperm_of_subset hfields.nodup hsub).perm_of_length_le hle
  have hmem : entry.1 ∈ fields.keys := hperm.mem_iff.mpr (List.mem_map.mpr ⟨entry, hentry, rfl⟩)
  exact Option.isSome_iff_exists.mp ((Document.mem_keys_iff_get? fields entry.1).mp hmem)

/-- One direction for documents, given symmetry for their values. -/
theorem sameFields_symm {fields other : Document} (hfields : fields.WellKeyed)
    (hother : other.WellKeyed) (hlength : fields.length = other.length)
    (hvalues : ∀ e ∈ fields, ∀ f ∈ other, same e.2 f.2 = same f.2 e.2)
    (h : sameFields fields other = true) : sameFields other fields = true := by
  refine sameFields_iff.mpr fun entry hentry => ?_
  obtain ⟨a, ha⟩ := mem_keys_of_sameFields hfields hlength h hentry
  have hmem := Document.mem_of_get? ha
  obtain ⟨b, hb, hab⟩ := sameFields_iff.mp h (entry.1, a) hmem
  have hbe : b = entry.2 :=
    Option.some.inj (hb.symm.trans (Document.get?_of_mem hother.nodup hentry))
  refine ⟨a, ha, ?_⟩
  rw [← hvalues (entry.1, a) hmem entry hentry, ← hbe]
  exact hab

mutual

/-- **Sameness is symmetric on values whose keys stand once.** -/
theorem same_comm (a b : Bson) (ha : a.WellKeyed) (hb : b.WellKeyed) : same a b = same b a := by
  cases a with
  | array as =>
    cases b with
    | array bs => exact sameItems_comm as bs ha hb
    | _ => rfl
  | document fields =>
    cases b with
    | document other => exact sameDocument_comm fields other ha hb
    | _ => rfl
  | codeWithScope source scope =>
    cases b with
    | codeWithScope text other =>
      rw [same, same, sameDocument_comm scope other ha hb, BEq.comm (a := source)]
    | _ => rfl
  | double x =>
    cases b with
    | double y => exact Double.equal_comm x y
    | _ => rfl
  | _ => cases b <;> first | rfl | simp [same, Bool.beq_comm]

theorem sameDocument_comm (fields other : List (String × Bson)) (ha : WellKeyedFields fields)
    (hb : WellKeyedFields other) :
    (fields.length == other.length && sameFields fields other) =
      (other.length == fields.length && sameFields other fields) := by
  by_cases hlength : fields.length = other.length
  · have hvalues : ∀ e ∈ fields, ∀ f ∈ other, same e.2 f.2 = same f.2 e.2 := fun e he f hf =>
      same_comm_fields fields ha e he f.2 (Document.WellKeyed.value hb hf)
    have hsame : sameFields fields other = sameFields other fields :=
      Bool.eq_iff_iff.mpr ⟨sameFields_symm ha hb hlength hvalues,
        sameFields_symm hb ha hlength.symm fun f hf e he => (hvalues e he f hf).symm⟩
    rw [hsame, hlength]
  · rw [beq_false_of_ne hlength, beq_false_of_ne (Ne.symm hlength), Bool.false_and,
      Bool.false_and]

theorem sameItems_comm (as bs : List Bson) (ha : WellKeyedItems as) (hb : WellKeyedItems bs) :
    sameItems as bs = sameItems bs as := by
  match as, bs with
  | [], [] | [], _ :: _ | _ :: _, [] => rfl
  | a :: as, b :: bs =>
    rw [sameItems, sameItems, same_comm a b ha.1 hb.1, sameItems_comm as bs ha.2 hb.2]

theorem same_comm_fields (fields : List (String × Bson)) (ha : WellKeyedFields fields) :
    ∀ entry ∈ fields, ∀ b : Bson, b.WellKeyed → same entry.2 b = same b entry.2 := by
  match fields with
  | [] => exact fun _ h => absurd h List.not_mem_nil
  | (key, a) :: rest =>
    intro entry hentry b hb
    rcases List.mem_cons.mp hentry with rfl | hmem
    · exact same_comm a b ha.2.1 hb
    · exact same_comm_fields rest ha.2.2 entry hmem b hb

end

end Bson

end Dossier
