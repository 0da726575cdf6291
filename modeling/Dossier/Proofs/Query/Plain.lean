/-
# Plain values as conditions

The condition on a field is a document of operators or a plain value, and nothing marks which of the
two it is: a document whose keys all begin with a dollar sign is taken for operators.  Everything
else is a plain value, and asks for equality as `$eq` does (`holds_plainValue`): arrays, patterns,
null, and documents in which only some keys begin with a dollar sign.

All keys of the empty document begin with a dollar sign, since it has none.  So it is taken for
operators of which each holds, and it holds of every document, where `$eq` asks for a field that is
empty.

Main statement: `holds_plain_iff`.
-/
import Dossier.Proofs.Query.Meaning

namespace Dossier

namespace Bson

/-- The value is a document of operators, with at least one. -/
def IsOperators : Bson → Prop
  | .document fields => fields ≠ [] ∧ (Document.keys fields).all isOperatorKey = true
  | _ => False

/-- Only the empty document agrees with the empty document. -/
theorem agrees_empty_iff {a : Bson} : a.agrees (.document []) = true ↔ a = .document [] := by
  cases a with
  | document fields => cases fields <;> simp [agrees, agreesFields]
  | _ => simp [agrees, agreesPlain, number?, same]

end Bson

namespace Query

variable {path : String} {v : Bson}

/-- An empty document is found: it is the value of the field, or an item of it. -/
inductive FindsEmpty : Option Bson → Prop
  | value : FindsEmpty (some (.document []))
  | item {items : List Bson} (h : .document [] ∈ items) : FindsEmpty (some (.array items))

theorem equals_empty_iff {field : Option Bson} :
    equals field (.document []) = true ↔ FindsEmpty field := by
  constructor
  · intro h
    cases field with
    | none => cases h
    | some found =>
      cases found with
      | array items =>
        obtain ⟨item, hitem, hagrees⟩ := List.any_eq_true.mp h
        rw [Bson.agrees_empty_iff] at hagrees
        exact .item (hagrees ▸ hitem)
      | document fields =>
        cases Bson.agrees_empty_iff.mp h
        exact .value
      | _ => cases Bson.agrees_empty_iff.mp h
  · intro h
    cases h with
    | value => rfl
    | item hitem => exact List.any_eq_true.mpr ⟨_, hitem, Bson.agrees_empty_iff.mpr rfl⟩

/-- The operator for equality, which takes any value. -/
theorem holds_equality (d : Document) (hpath : isOperatorKey path = false) (v : Bson) :
    holds d [(path, .document [("$eq", v)])] =
      .ok (equals (Path.resolve (Path.segments path) d) v) := by
  rw [holds_operator d hpath (by decide), holdsOperator_of_ne_not (by decide)]
  rfl

/-- A plain value asks for equality. -/
theorem holds_plainValue (d : Document) (hpath : isOperatorKey path = false)
    (hv : ¬ v.IsOperators) (hempty : v ≠ .document []) :
    holds d [(path, v)] = .ok (equals (Path.resolve (Path.segments path) d) v) := by
  rw [holds_single, holdsKey_path d hpath]
  cases v with
  | document fields =>
    have hkeys : ¬ (Document.keys fields).all isOperatorKey = true := by
      intro hall
      exact hv ⟨fun hnil => hempty (hnil ▸ rfl), hall⟩
    rw [holdsField, if_neg hkeys]
  | _ => rfl

/-- The empty document asks for nothing. -/
theorem holds_emptyDocument (d : Document) (hpath : isOperatorKey path = false) :
    holds d [(path, .document [])] = .ok true := by
  rw [holds_single, holdsKey_field d hpath rfl, holdsOperators]

/-- **A plain value is an equality, except for the empty document**, which holds of all documents:
there the two are the same only where an empty document is found. -/
theorem holds_plain_iff (d : Document) (hpath : isOperatorKey path = false)
    (hv : ¬ v.IsOperators) :
    holds d [(path, v)] = holds d [(path, .document [("$eq", v)])] ↔
      (v = .document [] → FindsEmpty (Path.resolve (Path.segments path) d)) := by
  rw [holds_equality d hpath]
  by_cases hempty : v = .document []
  · subst hempty
    rw [holds_emptyDocument d hpath, Except.ok.injEq, eq_comm, equals_empty_iff]
    simp
  · rw [holds_plainValue d hpath hv hempty]
    exact iff_of_true rfl fun h => absurd h hempty

namespace Example

/-- A document with a key of each kind is a plain value, in an array that has it as an item. -/
theorem holds_plain_marks :
    let mark : Bson := .document [("$size", .int32 1), ("size", .int32 2)]
    let d : Document := [("marks", .array [.null, mark])]
    isOperatorKey "marks" = false ∧ ¬ mark.IsOperators ∧
      holds d [("marks", mark)] = .ok true ∧
      holds d [("marks", mark)] = holds d [("marks", .document [("$eq", mark)])] := by
  intro mark d
  have hmarks : isOperatorKey "marks" = false := by decide
  have hplain : ¬ mark.IsOperators := by
    rintro ⟨-, hall⟩
    exact absurd hall (by decide)
  have heq : holds d [("marks", mark)] = holds d [("marks", .document [("$eq", mark)])] :=
    (holds_plain_iff d hmarks hplain).mpr fun hempty => absurd hempty (by simp [mark])
  refine ⟨hmarks, hplain, ?_, heq⟩
  rw [heq, holds_equality d hmarks]
  exact congrArg Except.ok (by decide +kernel)

/-- **The empty document as a condition is no equality.**  It holds of a number. -/
theorem emptyDocument_not_equality :
    ¬ (Bson.document []).IsOperators ∧
    holds [("a", .int32 1)] [("a", .document [])] = .ok true ∧
    holds [("a", .int32 1)] [("a", .document [("$eq", .document [])])] = .ok false := by
  refine ⟨fun h => h.1 rfl, holds_emptyDocument _ (by decide), ?_⟩
  rw [holds_equality _ (by decide)]
  exact congrArg Except.ok (by decide +kernel)

end Example

end Query

end Dossier
