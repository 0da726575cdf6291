/-
# An update sets what it names, and nothing else

An update of `$set` writes values at paths.  If no two of its paths overlap, each path leads to its
value afterwards, and a path that overlaps with none of them leads to what it led to before
(`Store.update_set`).  The document may have any shape: where a scalar, an array or nothing at all
stands on the way to a path, there is a document afterwards, and no path that lies apart led through
what was there.
-/
import Dossier.Proofs.Query.Apart
import Dossier.Proofs.Store.Calls
import Dossier.Proofs.Store.Writes

namespace Dossier

namespace Store

/-- Fields and their values as writes at segments. -/
def pathWrites (fields : Document) : List Path.Write :=
  fields.map fun entry => (Path.segments entry.1, entry.2)

theorem writeAll_eq_setAll (fields d : Document) :
    writeAll fields d = Path.setAll (pathWrites fields) d := by
  rw [Path.setAll, pathWrites, List.foldl_map]
  rfl

theorem mem_pathWrites {fields : Document} {path : String} {value : Bson}
    (h : (path, value) ∈ fields) : (Path.segments path, value) ∈ pathWrites fields :=
  List.mem_map_of_mem (f := fun entry : String × Bson => (Path.segments entry.1, entry.2)) h

/-- A property of all writes is one of the segments of all fields. -/
theorem forall_pathWrites {P : List String → Prop} {fields : Document}
    (h : ∀ path ∈ fields.keys, P (Path.segments path)) :
    ∀ write ∈ pathWrites fields, P write.1 := by
  rintro write hwrite
  obtain ⟨entry, hentry, rfl⟩ := List.mem_map.mp hwrite
  exact h entry.1 (List.mem_map_of_mem hentry)

/-- Fields are written, unless the identity is among them. -/
theorem setFields_eq (fields d : Document) :
    setFields fields d = if storeIdentityKey ∈ fields.keys then .error .identityUpdate
      else .ok (writeAll fields d) := by
  induction fields generalizing d with
  | nil => rfl
  | cons entry rest ih =>
    obtain ⟨path, value⟩ := entry
    have hkeys : storeIdentityKey ∈ Document.keys ((path, value) :: rest) ↔
        storeIdentityKey = path ∨ storeIdentityKey ∈ Document.keys rest := List.mem_cons
    rw [setFields, ih, writeAll_cons]
    by_cases hpath : path = storeIdentityKey
    · rw [if_pos hpath, if_pos (hkeys.mpr (Or.inl hpath.symm))]
    · simp only [hpath, Ne.symm hpath, hkeys, false_or, ↓reduceIte]

/-- An update of `$set` writes its fields, unless it names the identity. -/
theorem applyUpdate_set_eq (fields d : Document) :
    applyUpdate [("$set", .document fields)] d =
      if storeIdentityKey ∈ fields.keys then .error .identityUpdate
      else .ok (Path.setAll (pathWrites fields) d) := by
  rw [applyUpdate, setFields_eq, ← writeAll_eq_setAll]
  split <;> rfl

/-- In the second document each field has its value, and every path that lies apart from all fields
leads to what it leads to in the first. -/
structure Sets (fields d d' : Document) : Prop where
  own : ∀ path value, (path, value) ∈ fields →
    Path.resolve (Path.segments path) d' = some value
  others : ∀ path : String,
    (∀ field ∈ fields.keys, Path.Apart (Path.segments field) (Path.segments path)) →
      Path.resolve (Path.segments path) d' = Path.resolve (Path.segments path) d

theorem sets_setAll {fields : Document}
    (hapart : fields.keys.Pairwise fun p q => Path.Apart (Path.segments p) (Path.segments q))
    (d : Document) : Sets fields d (Path.setAll (pathWrites fields) d) where
  own path value hmem := by
    have hpairwise : (pathWrites fields).Pairwise fun write other =>
        Path.Apart write.1 other.1 := by
      rw [Document.keys, List.pairwise_map] at hapart
      exact List.pairwise_map.mpr hapart
    exact Path.resolve_setAll_of_pairwise
      (forall_pathWrites (P := (· ≠ [])) fun path _ => Path.segments_ne_nil path) hpairwise d _
      (mem_pathWrites hmem)
  others path h :=
    Path.resolve_setAll_of_apart
      (forall_pathWrites (P := (Path.Apart · (Path.segments path))) h) d

/-- **Set, then get.**  An update that sets fields changes the first document that satisfies its
query, if it does not name the identity.  If no field overlaps with another one, each is set to its
value, and nothing can be seen of that from paths that lie apart. -/
theorem update_set {s : Store} {collection : String} {query : Document}
    {before after : List Document} {d : Document}
    (hds : s.documents collection = before ++ d :: after) (hfirst : Query.First query before d)
    {fields : Document} (hidentity : storeIdentityKey ∉ fields.keys)
    (hapart : fields.keys.Pairwise fun p q => Path.Apart (Path.segments p) (Path.segments q)) :
    ∃ d', s.update collection query [("$set", .document fields)] =
        .ok (true, s.put collection (before ++ d' :: after)) ∧
      Sets fields d d' := by
  refine ⟨_, ?_, sets_setAll hapart d⟩
  rw [update_eq_of_first hds hfirst, applyUpdate_set_eq, if_neg hidentity]

namespace Example

/-- A scalar, an array and a document. -/
def shapes : Document :=
  [("_id", .string "s"), ("a", .int32 5), ("list", .array [.int32 1]),
    ("home", .document [("city", .string "Hamburg")])]

/-- Paths through the scalar, the array, the document and the identity, with empty segments among
them. -/
def throughShapes : Document :=
  [("a.b", .int32 1), ("a..b", .int32 2), ("list.0", .document []), ("home.", .null),
    ("", .int32 3), ("_id.x", .string "t")]

/-- Beside the scalar, where a document is now, there is nothing else, and beside the empty segment
of the document stands what stood there. -/
theorem update_set_shapes :
    let s := Store.empty.put "c" [shapes]
    ∃ d', s.update "c" [] [("$set", .document throughShapes)] = .ok (true, s.put "c" [d']) ∧
      Path.resolve ["a", "", "b"] d' = some (.int32 2) ∧
      Path.resolve [""] d' = some (.int32 3) ∧
      Path.resolve ["a", "c"] d' = none ∧
      Path.resolve ["home", "city"] d' = some (.string "Hamburg") := by
  have hfirst : Query.First [] [] shapes :=
    ⟨fun _ h => absurd h List.not_mem_nil, by rw [Query.holds]⟩
  have hds : (Store.empty.put "c" [shapes]).documents "c" = [] ++ shapes :: [] := rfl
  obtain ⟨d', hd', hsets⟩ :=
    @update_set _ _ _ _ _ _ hds hfirst throughShapes (by decide) (by decide)
  exact ⟨d', hd', hsets.own "a..b" (.int32 2) (by simp [throughShapes]),
    hsets.own "" (.int32 3) (by simp [throughShapes]), hsets.others "a.c" (by decide),
    hsets.others "home.city" (by decide)⟩

end Example

end Store

end Dossier
