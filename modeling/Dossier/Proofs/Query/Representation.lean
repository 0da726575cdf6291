/-
# Evaluation does not see how values are represented

A document may give its keys in another order, at any depth, and its integers the other width, but
for those in the scope of code.  No operator tells the two apart (`Indistinct`), because an operator
looks at a field through equality, order, presence and texts, and each of these respects
`Bson.Alike`.  So whole queries do not tell documents apart whose fields are indistinct: what holds,
what does not, and what is an error.

Of a query the operands of comparisons may change likewise (`Varies`).  The order of keys of a query
itself does matter, since the first key that fails hides the faults after it.

Main statement: `holds_eq_of_alike`.
-/
import Dossier.Proofs.Bson.Agreement
import Dossier.Proofs.Query.Meaning

namespace Dossier

namespace Bson

variable {anyWidth : Prop} {a b : Bson}

def isArray : Bson → Bool
  | .array _ => true
  | _ => false

theorem isArray_of_number {v : Bson} {m : Number} (h : v.number? = some m) : v.isArray = false := by
  cases v <;> cases h <;> rfl

theorem items_of_number {v : Bson} {m : Number} (h : v.number? = some m) : v.items = [] := by
  cases v <;> cases h <;> rfl

theorem Alike.isArray_eq (h : a.Alike anyWidth b) : a.isArray = b.isArray := by
  cases h with
  | refl => rfl
  | integer _ ha hb => rw [isArray_of_number ha, isArray_of_number hb]
  | array | document | codeWithScope => rfl

theorem Alike.items (h : a.Alike anyWidth b) :
    List.Forall₂ (Alike anyWidth) a.items b.items := by
  cases h with
  | refl => exact List.forall₂_same.mpr fun item _ => .refl item
  | integer _ ha hb =>
    rw [items_of_number ha, items_of_number hb]
    exact .nil
  | array hlength hitems => exact alike_array_iff.mp (.array hlength hitems)
  | document | codeWithScope => exact .nil

/-- What is computed from each item is the same, if it is from items that are alike. -/
theorem Alike.map_items (h : a.Alike anyWidth b) {α : Type} {f : Bson → α}
    (hf : ∀ x ∈ a.items, ∀ y, x.Alike anyWidth y → f x = f y) :
    a.items.map f = b.items.map f := by
  have hmem := (List.forall₂_and_left a.items b.items).mpr ⟨fun x (hx : x ∈ a.items) => hx, h.items⟩
  rw [← List.forall₂_eq_eq_eq, List.forall₂_map_left_iff, List.forall₂_map_right_iff]
  exact hmem.imp fun x y hxy => hf x hxy.1 y hxy.2

theorem WellKeyed.item (h : a.WellKeyed) {item : Bson} (hitem : item ∈ a.items) :
    item.WellKeyed := by
  cases a with
  | array items => exact wellKeyed_array_iff.mp h item hitem
  | _ => cases hitem

end Bson

namespace Query

/-! ## 1. Fields that no operator tells apart -/

/-- Two fields, either of which may be missing, that look the same to every operator. -/
structure Indistinct (field other : Option Bson) : Prop where
  equals : ∀ operand, Query.equals field operand = Query.equals other operand
  order : ∀ operand, Query.order field operand = Query.order other operand
  present : field.isSome = other.isSome
  texts : fieldTexts field = fieldTexts other

variable {anyWidth : Prop} {field other : Option Bson}

/-- A field equals what it agrees with, and what one of its items agrees with if this is no array
itself. -/
theorem equals_some (v operand : Bson) :
    equals (some v) operand =
      (v.agrees operand || !operand.isArray && (v.items.map (·.agrees operand)).any id) := by
  rw [List.any_map, Function.id_comp]
  cases v with
  | array items =>
    cases operand with
    | array _ => exact (Bool.or_false _).symm
    | _ => rfl
  | _ =>
    show _ = (_ || !operand.isArray && false)
    rw [Bool.and_false, Bool.or_false]
    rfl

theorem fieldTexts_some (v : Bson) :
    fieldTexts (some v) = v.asString?.toList ++ (v.items.map Bson.asString?).filterMap id := by
  rw [List.filterMap_map, Function.id_comp]
  cases v <;> rfl

theorem equals_alike {a b : Bson} (h : a.Alike anyWidth b) (ha : a.WellKeyed) (operand : Bson) :
    equals (some a) operand = equals (some b) operand := by
  have hitems : a.items.map (·.agrees operand) = b.items.map (·.agrees operand) := by
    refine h.map_items fun x hx y hxy => ?_
    exact hxy.agrees_left (ha.item hx) operand
  rw [equals_some, equals_some, h.agrees_left ha, hitems]

theorem fieldTexts_alike {a b : Bson} (h : a.Alike anyWidth b) :
    fieldTexts (some a) = fieldTexts (some b) := by
  have hitems : a.items.map Bson.asString? = b.items.map Bson.asString? :=
    h.map_items fun x _ y hxy => hxy.asString?_eq
  rw [fieldTexts_some, fieldTexts_some, h.asString?_eq, hitems]

/-- Alike fields are indistinct, if each key stands once in them. -/
theorem indistinct_of_rel (h : Option.Rel (Bson.Alike anyWidth) field other)
    (hfield : ∀ v ∈ field, v.WellKeyed) : Indistinct field other := by
  cases h with
  | none => exact ⟨fun _ => rfl, fun _ => rfl, rfl, rfl⟩
  | @some a b h =>
    exact ⟨equals_alike h (hfield a rfl), h.compare?_left, rfl, fieldTexts_alike h⟩

/-! ## 2. Queries on indistinct fields -/

namespace Indistinct

theorem matchesText (h : Indistinct field other) (pattern options : String) :
    Query.matchesText field pattern options = Query.matchesText other pattern options := by
  unfold Query.matchesText
  simp only [matchesRegex_eq, h.texts]

theorem matchesPattern (h : Indistinct field other) (pattern : Bson) (options : String) :
    Query.matchesPattern field pattern options = Query.matchesPattern other pattern options := by
  unfold Query.matchesPattern
  simp only [h.matchesText]

theorem holdsPlain (h : Indistinct field other) (options op : String) (operand : Bson) :
    Query.holdsPlain field options op operand = Query.holdsPlain other options op operand := by
  unfold Query.holdsPlain
  simp only [h.equals, h.order, h.present, h.matchesPattern, h.matchesText]

mutual

theorem holdsOperator (h : Indistinct field other) (options op : String) (operand : Bson) :
    Query.holdsOperator field options op operand =
      Query.holdsOperator other options op operand := by
  cases operand with
  | document inner =>
    rw [Query.holdsOperator, Query.holdsOperator, h.holdsOperators (patternOptions inner) inner,
      h.holdsPlain]
  | _ => exact h.holdsPlain options op _

theorem holdsOperators (h : Indistinct field other) (options : String)
    (operators : List (String × Bson)) :
    Query.holdsOperators field options operators =
      Query.holdsOperators other options operators := by
  match operators with
  | [] => rw [Query.holdsOperators, Query.holdsOperators]
  | (op, operand) :: rest =>
    rw [Query.holdsOperators, Query.holdsOperators, h.holdsOperator options op operand,
      h.holdsOperators options rest]

end

theorem holdsField (h : Indistinct field other) (condition : Bson) :
    Query.holdsField field condition = Query.holdsField other condition := by
  unfold Query.holdsField
  simp only [h.equals, h.holdsOperators]

end Indistinct

-- A query is looked at key by key and clause by clause, and only `holdsKey` looks at the document.
mutual

/-- No query tells documents apart whose fields are indistinct. -/
theorem holds_of_indistinct {d e : Document}
    (h : ∀ path, Indistinct (Path.resolve path d) (Path.resolve path e))
    (query : List (String × Bson)) : holds d query = holds e query := by
  match query with
  | [] => rw [holds, holds]
  | (key, condition) :: rest =>
    rw [holds, holds, holdsKey_of_indistinct h key condition, holds_of_indistinct h rest]

theorem holdsKey_of_indistinct {d e : Document}
    (h : ∀ path, Indistinct (Path.resolve path d) (Path.resolve path e)) (key : String)
    (condition : Bson) : holdsKey d key condition = holdsKey e key condition := by
  rw [holdsKey, holdsKey]
  split
  · exact holdsClause_of_indistinct h _ condition
  · rw [(h (Path.segments key)).holdsField]

theorem holdsClause_of_indistinct {d e : Document}
    (h : ∀ path, Indistinct (Path.resolve path d) (Path.resolve path e)) (connective : Connective)
    (clause : Bson) : holdsClause d connective clause = holdsClause e connective clause := by
  rw [holdsClause.eq_def, holdsClause.eq_def e]
  split
  · exact holdsQueries_of_indistinct h connective _
  · rw [holdsClause_of_indistinct h connective]
  · rfl

theorem holdsQueries_of_indistinct {d e : Document}
    (h : ∀ path, Indistinct (Path.resolve path d) (Path.resolve path e)) (connective : Connective)
    (queries : List Bson) :
    holdsQueries d connective queries = holdsQueries e connective queries := by
  rw [holdsQueries.eq_def, holdsQueries.eq_def e]
  split
  · rfl
  · rw [holds_of_indistinct h, holdsQueries_of_indistinct h connective]
  · rfl

end

/-- What a path leads to in a well-keyed document is well-keyed. -/
theorem wellKeyed_of_resolve {d : Document} (hd : d.WellKeyed) {path : List String} {v : Bson}
    (hv : Path.resolve path d = some v) : v.WellKeyed := by
  induction path generalizing d with
  | nil => cases hv
  | cons key rest ih =>
    rw [Path.resolve_cons] at hv
    cases rest with
    | nil => exact hd.value (Document.mem_of_get? hv)
    | cons next more => exact ih (Document.wellKeyed_inner hd key) hv

/-- No query tells alike documents apart. -/
theorem holds_of_alike {d e : Document} (hd : d.WellKeyed) (h : d.Alike anyWidth e)
    (query : Document) : holds d query = holds e query := by
  refine holds_of_indistinct (fun path => ?_) query
  refine indistinct_of_rel (Path.alike_resolve h path) ?_
  intro v hv
  exact wellKeyed_of_resolve hd hv

/-! ## 3. Operands -/

/-- The operators that compare a field with their operand. -/
def comparisonKeys : List String := ["$eq", "$ne", "$gt", "$gte", "$lt", "$lte"]

mutual

/-- The second value is the first one, except that operands of comparisons inside it may be replaced
by alike ones. -/
inductive Varies : Bson → Bson → Prop
  | refl (a : Bson) : Varies a a
  | array {as bs : List Bson} (h : VariesItems as bs) : Varies (.array as) (.array bs)
  | document {q r : List (String × Bson)} (h : VariesFields q r) :
      Varies (.document q) (.document r)

inductive VariesItems : List Bson → List Bson → Prop
  | nil : VariesItems [] []
  | cons {a b : Bson} {as bs : List Bson} (h : Varies a b) (hrest : VariesItems as bs) :
      VariesItems (a :: as) (b :: bs)

/-- The same keys in the same order, and varied values.  Under the key of a comparison the value may
be any alike one. -/
inductive VariesFields : List (String × Bson) → List (String × Bson) → Prop
  | nil : VariesFields [] []
  | operand {key : String} {a b : Bson} {q r : List (String × Bson)} (hkey : key ∈ comparisonKeys)
      (h : a.Alike True b) (hrest : VariesFields q r) : VariesFields ((key, a) :: q) ((key, b) :: r)
  | value {key : String} {a b : Bson} {q r : List (String × Bson)} (h : Varies a b)
      (hrest : VariesFields q r) : VariesFields ((key, a) :: q) ((key, b) :: r)

end

mutual

theorem Varies.alike {a b : Bson} (h : Varies a b) : a.Alike True b := by
  cases h with
  | refl => exact .refl a
  | array h => exact Bson.alike_array_iff.mpr h.alike
  | document h => exact Bson.alike_document_iff.mpr h.alike

theorem VariesItems.alike {as bs : List Bson} (h : VariesItems as bs) :
    List.Forall₂ (Bson.Alike True) as bs := by
  cases h with
  | nil => exact .nil
  | cons h hrest => exact .cons h.alike hrest.alike

theorem VariesFields.alike {q r : Document} (h : VariesFields q r) : q.Alike True r := by
  cases h with
  | nil => exact .refl []
  | operand _ h hrest => exact hrest.alike.cons _ h
  | value h hrest => exact hrest.alike.cons _ h.alike

end

theorem VariesFields.keys_eq {q r : Document} (h : VariesFields q r) : q.keys = r.keys := by
  match h with
  | .nil => rfl
  | .operand _ _ hrest | .value _ hrest => exact congrArg (_ :: ·) hrest.keys_eq

theorem VariesFields.patternOptions_eq {q r : Document} (h : VariesFields q r) :
    patternOptions q = patternOptions r := by
  have hrel := h.alike.values "$options"
  unfold patternOptions
  generalize q.get? "$options" = found at hrel
  generalize r.get? "$options" = varied at hrel
  cases hrel with
  | none => rfl
  | some hab => rw [Option.bind_some, Option.bind_some, hab.asString?_eq]

/-! ## 4. Alike operands -/

theorem equals_alike_right {a b : Bson} (h : a.Alike anyWidth b) (field : Option Bson) :
    equals field a = equals field b := by
  cases field with
  | none =>
    show a.agrees .null = b.agrees .null
    cases h with
    | refl => rfl
    | integer _ ha hb => rw [Bson.agrees_of_number_left ha, Bson.agrees_of_number_left hb]
    | array | document | codeWithScope => rfl
  | some v =>
    have hagrees : (fun item : Bson => item.agrees a) = fun item => item.agrees b :=
      funext h.agrees_right
    rw [equals_some, equals_some, h.agrees_right, h.isArray_eq, hagrees]

theorem matchesPattern_alike {a b : Bson} (h : a.Alike anyWidth b) (field : Option Bson)
    (options : String) : matchesPattern field a options = matchesPattern field b options := by
  cases h with
  | refl => rfl
  | integer _ ha hb =>
    have herror {v : Bson} {m : Number} (hv : v.number? = some m) :
        matchesPattern field v options = .error .patternExpected := by
      cases v <;> cases hv <;> rfl
    rw [herror ha, herror hb]
  | array | document | codeWithScope => rfl

theorem holdsPlain_alike {a b : Bson} (h : a.Alike anyWidth b) (field : Option Bson)
    (options op : String) : holdsPlain field options op a = holdsPlain field options op b := by
  unfold holdsPlain
  simp only [equals_alike_right h, order, h.compare?_right, h.isTruthy_eq, matchesPattern_alike h]
  split
  case h_10 =>
    -- under `$not` stands a pattern, or there is a fault
    cases h with
    | refl => rfl
    | integer _ ha hb =>
      rcases Bson.number?_eq_some_int_iff.mp ha with ⟨m, rfl, -⟩ | ⟨m, rfl, -⟩ <;>
        rcases Bson.number?_eq_some_int_iff.mp hb with ⟨n, rfl, -⟩ | ⟨n, rfl, -⟩ <;> rfl
    | array | document | codeWithScope => rfl
  all_goals rfl

/-! ## 5. Varied queries -/

/-- A key of a comparison is an operator, but not one of a clause, nor one that negates. -/
theorem of_mem_comparisonKeys {key : String} (h : key ∈ comparisonKeys) :
    Connective.ofKey? key = none ∧ isOperatorKey key = true ∧ key ≠ "$not" := by
  revert key
  decide

mutual

theorem Varies.holdsOperator {a b : Bson} (h : Varies a b) (field : Option Bson)
    (options op : String) :
    Query.holdsOperator field options op a = Query.holdsOperator field options op b := by
  cases h with
  | refl => rfl
  | array h => exact holdsPlain_alike (Varies.array h).alike field options op
  | document h =>
    rw [Query.holdsOperator, Query.holdsOperator, h.patternOptions_eq, h.holdsOperators,
      holdsPlain_alike (Varies.document h).alike]

theorem VariesFields.holdsOperators {q r : Document} (h : VariesFields q r) (field : Option Bson)
    (options : String) :
    Query.holdsOperators field options q = Query.holdsOperators field options r := by
  cases h with
  | nil => rfl
  | @operand key a b _ _ hkey h hrest =>
    have hne := (of_mem_comparisonKeys hkey).2.2
    rw [Query.holdsOperators, Query.holdsOperators, holdsOperator_of_ne_not hne,
      holdsOperator_of_ne_not hne, holdsPlain_alike h, hrest.holdsOperators]
  | value h hrest =>
    rw [Query.holdsOperators, Query.holdsOperators, h.holdsOperator, hrest.holdsOperators]

end

theorem Varies.holdsField {a b : Bson} (h : Varies a b) (field : Option Bson) :
    Query.holdsField field a = Query.holdsField field b := by
  cases h with
  | refl => rfl
  | array h => exact congrArg Except.ok (equals_alike_right (Varies.array h).alike field)
  | document h =>
    rw [Query.holdsField, Query.holdsField, h.keys_eq, h.patternOptions_eq, h.holdsOperators,
      equals_alike_right (Varies.document h).alike]

theorem holdsClause_document {d : Document} {connective : Connective} {q : Document}
    (h : ∀ inner, q ≠ [("$not", inner)]) :
    holdsClause d connective (.document q) = .error (.clausesExpected connective.key) := by
  rw [holdsClause]
  · rintro queries ⟨⟩
  · exact fun inner heq => h inner (Bson.document.inj heq)

theorem holdsQueries_cons_of_not_document {d : Document} {connective : Connective} {item : Bson}
    (h : ∀ query, item ≠ .document query) (rest : List Bson) :
    holdsQueries d connective (item :: rest) = .error (.clausesExpected connective.key) := by
  rw [holdsQueries]
  exact h

mutual

theorem VariesFields.holds {q r : Document} (h : VariesFields q r) (d : Document) :
    Query.holds d q = Query.holds d r := by
  cases h with
  | nil => rfl
  | @operand key a b _ _ hkey h hrest =>
    obtain ⟨hconnective, hoperator, -⟩ := of_mem_comparisonKeys hkey
    have herror (v : Bson) : holdsKey d key v = .error (.topLevelOperator key) := by
      rw [holdsKey, hconnective]
      exact if_pos hoperator
    rw [Query.holds, Query.holds, herror, herror, hrest.holds]
  | value h hrest => rw [Query.holds, Query.holds, h.holdsKey, hrest.holds]

theorem Varies.holdsKey {a b : Bson} (h : Varies a b) (d : Document) (key : String) :
    Query.holdsKey d key a = Query.holdsKey d key b := by
  rw [Query.holdsKey, Query.holdsKey]
  split
  · exact h.holdsClause d _
  · rw [h.holdsField]

theorem Varies.holdsClause {a b : Bson} (h : Varies a b) (d : Document) (connective : Connective) :
    Query.holdsClause d connective a = Query.holdsClause d connective b := by
  cases h with
  | refl => rfl
  | array h => rw [Query.holdsClause, Query.holdsClause, h.holdsQueries]
  | @document q r h =>
    by_cases hnot : ∃ inner, q = [("$not", inner)]
    · obtain ⟨inner, rfl⟩ := hnot
      cases h with
      | operand hkey => exact absurd hkey (by decide)
      | value h hrest =>
        cases hrest
        rw [Query.holdsClause, Query.holdsClause, h.holdsClause]
    · have hnot' : ∀ inner, r ≠ [("$not", inner)] := by
        rintro inner rfl
        match h with
        | .value _ .nil | .operand _ _ .nil => exact hnot ⟨_, rfl⟩
      rw [holdsClause_document fun inner heq => hnot ⟨inner, heq⟩, holdsClause_document hnot']

theorem VariesItems.holdsQueries {as bs : List Bson} (h : VariesItems as bs) (d : Document)
    (connective : Connective) :
    Query.holdsQueries d connective as = Query.holdsQueries d connective bs := by
  cases h with
  | nil => rfl
  | @cons item _ _ _ h hrest =>
    cases h with
    | refl =>
      by_cases hdocument : ∃ query, item = .document query
      · obtain ⟨query, rfl⟩ := hdocument
        rw [Query.holdsQueries, Query.holdsQueries, hrest.holdsQueries]
      · have hnone : ∀ query, item ≠ .document query := fun query heq => hdocument ⟨query, heq⟩
        rw [holdsQueries_cons_of_not_document hnone, holdsQueries_cons_of_not_document hnone]
    | array h =>
      have harray (items : List Bson) : ∀ query, Bson.array items ≠ .document query := by
        rintro query ⟨⟩
      rw [holdsQueries_cons_of_not_document (harray _),
        holdsQueries_cons_of_not_document (harray _)]
    | document h =>
      rw [Query.holdsQueries, Query.holdsQueries, h.holds, hrest.holdsQueries]

end

/-- **Evaluation does not depend on how values are represented.** -/
theorem holds_eq_of_alike {d e : Document} (hd : d.WellKeyed) (h : d.Alike True e) {q r : Document}
    (hq : VariesFields q r) : holds d q = holds e r :=
  (holds_of_alike hd h q).trans (hq.holds e)

namespace Example

def home : Document := [("zip", .int32 20095), ("city", .string "Hamburg")]

/-- The same, with the keys the other way round and a wide integer. -/
def home' : Document := [("city", .string "Hamburg"), ("zip", .int64 20095)]

def mark : Document := [("n", .int64 1), ("s", .string "a")]

def mark' : Document := [("s", .string "a"), ("n", .int32 1)]

theorem alike_int {m : Int32} {n : Int64} (h : m.toInt = n.toInt) :
    (Bson.int32 m).Alike True (.int64 n) :=
  .integer trivial (congrArg (some ∘ Number.int) h) rfl

theorem alike_home : home.Alike True home' :=
  (((Document.Alike.refl []).cons "city" (.refl _)).cons "zip" (alike_int rfl)).trans
    (Document.alike_of_perm (by decide) (.swap _ _ _))

theorem alike_mark : mark.Alike True mark' :=
  (((Document.Alike.refl []).cons "s" (.refl _)).cons "n" (alike_int rfl).symm).trans
    (Document.alike_of_perm (by decide) (.swap _ _ _))

/-- A document inside an array, and one beside it. -/
def parcel : Document := [("marks", .array [.document mark, .null]), ("home", .document home)]

def parcel' : Document := [("home", .document home'), ("marks", .array [.document mark', .null])]

theorem alike_parcel : parcel.Alike True parcel' := by
  have hmarks : (Bson.array [.document mark, .null]).Alike True
      (.array [.document mark', .null]) :=
    Bson.alike_array_iff.mpr
      (.cons (Bson.alike_document_iff.mpr alike_mark) (.cons (.refl _) .nil))
  have hhome : (Bson.document home).Alike True (.document home') :=
    Bson.alike_document_iff.mpr alike_home
  exact (((Document.Alike.refl []).cons "home" hhome).cons "marks" hmarks).trans
    (Document.alike_of_perm (by decide) (.swap _ _ _))

/-- Comparisons with documents, beside a pattern and under a negation, and a fault at the end. -/
def question (home mark zip : Bson) : Document :=
  [("home", .document [("$eq", home)]),
    ("$and", .array [.document [("home.zip", .document [("$not", .document [("$gt", zip)])])],
      .document [("home.city", .document [("$regex", .string "^h"), ("$options", .string "i")])]]),
    ("marks", .document [("$eq", mark), ("$oops", .null)])]

theorem varies_question {home home' mark mark' zip zip' : Bson} (hhome : home.Alike True home')
    (hmark : mark.Alike True mark') (hzip : zip.Alike True zip') :
    VariesFields (question home mark zip) (question home' mark' zip') :=
  .value (.document (.operand (by decide) hhome .nil))
    (.value (.array (.cons
        (.document (.value (.document (.value (.document (.operand (by decide) hzip .nil)) .nil))
          .nil))
        (.cons (.refl _) .nil)))
      (.value (.document (.operand (by decide) hmark (.value (.refl _) .nil))) .nil))

/-- The parcel answers the question alike, whichever way the two are written. -/
theorem holds_eq_of_alike_parcel :
    holds parcel (question (.document home') (.document mark) (.int32 30000)) =
      holds parcel' (question (.document home) (.document mark') (.int64 30000)) := by
  have hwell : parcel.WellKeyed := by
    simp [parcel, home, mark, Document.WellKeyed, Bson.WellKeyedFields, Bson.WellKeyed,
      Bson.WellKeyedItems]
  exact holds_eq_of_alike hwell alike_parcel (varies_question
    (Bson.alike_document_iff.mpr alike_home.symm) (Bson.alike_document_iff.mpr alike_mark)
    (alike_int rfl))

/-- Code with one free variable. -/
def program (x : Bson) : Bson := .codeWithScope "f" [("x", x)]

def question' (x : Bson) : Document := [("run", .document [("$eq", program x)])]

/-- In the scope of code the width of an integer shows, in the document and in the operand. -/
theorem width_shows_in_scope :
    holds [("run", program (.int32 1))] (question' (.int32 1)) = .ok true ∧
      holds [("run", program (.int64 1))] (question' (.int32 1)) = .ok false ∧
      holds [("run", program (.int32 1))] (question' (.int64 1)) = .ok false := by
  refine ⟨?_, ?_, ?_⟩ <;> cbv

end Example

end Query

end Dossier
