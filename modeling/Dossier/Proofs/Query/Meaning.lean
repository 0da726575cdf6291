/-
# What the query of a condition says

A condition is a boolean combination of comparisons.  `Condition.meaning` says so directly: `and`,
`or` and `not` are those of booleans, parentheses change nothing, and a comparison is a test of the
value that its path leads to (`Comparison.test`).

The query says the same in another form, and negation is where the two forms are furthest apart.
`negateKeys` wraps the value of every key in `$not`, whatever the value is, and evaluation unwraps
it in two places: around operators in `holdsOperators`, around a clause in `holdsClause`.  That
the wrapping of each key negates the whole query rests on an invariant of all compiled queries:

* `Query.SingleKey`: there is one key, and it is a connective, or it is a path whose value is a
  document of operators.  A query of two keys, or a path with a plain value, would be negated
  wrongly or be malformed.

Main statement: `holds_compile` (a condition whose fields have names compiles, to one key, and on
every document its query is the meaning of the condition, without an error).  It takes for granted
that the patterns of the condition can be read.
-/
import Dossier.Query.Compile
import Dossier.Query.Evaluate

namespace Dossier

/-! ## 1. What a comparison tests -/

/-- A leaf of a condition. -/
structure Comparison where
  field : String
  operator : Operator
  value : Literal
deriving DecidableEq

/-- The items of an array; nothing else has items. -/
def Bson.items : Bson → List Bson
  | .array items => items
  | _ => []

/-- The texts in which a pattern is looked for: a string, or the strings of an array. -/
def fieldTexts : Option Bson → List String
  | some (.string s) => [s]
  | some value => value.items.filterMap Bson.asString?
  | none => []

namespace Comparison

/-- A missing field equals null.  One that is there equals what it agrees with, and an array also
what one of its items agrees with. -/
def equals (field : Option Bson) (value : Bson) : Bool :=
  match field with
  | none => value.isNull
  | some found => found.agrees value || found.items.any (·.agrees value)

/-- The order of a field and a value, if there is one, is as asked for. -/
def ordered (field : Option Bson) (value : Bson) (asked : Ordering → Bool) : Bool :=
  (field.bind fun found => found.compare? value).any asked

/-- Some text of the field has a match of the pattern. -/
def matched (field : Option Bson) (pattern : String) : Bool :=
  match Regex.parse? pattern false false with
  | some r => (fieldTexts field).any fun s => r.isMatch s.toList
  | none => false

/-- The comparison, of the value of a field that may be missing. -/
def test (c : Comparison) (field : Option Bson) : Bool :=
  match c.operator with
  | .eq => equals field c.value.toBson
  | .ne => !equals field c.value.toBson
  | .gt => ordered field c.value.toBson Ordering.isGT
  | .ge => ordered field c.value.toBson Ordering.isGE
  | .lt => ordered field c.value.toBson Ordering.isLT
  | .le => ordered field c.value.toBson Ordering.isLE
  | .pr => field.isSome
  | .co | .sw | .ew => matched field (c.operator.pattern c.value.toText)

/-- The field has a name, and the name is no operator. -/
def Named (c : Comparison) : Prop := c.field ≠ "" ∧ isOperatorKey c.field = false

instance (c : Comparison) : Decidable c.Named := inferInstanceAs (Decidable (_ ∧ _))

/-- Whether the operator looks for a text. -/
def looksForText (c : Comparison) : Bool :=
  c.operator = .co || c.operator = .sw || c.operator = .ew

/-- If the operator looks for a text, the pattern by which it does can be read. -/
def Readable (c : Comparison) : Prop :=
  c.looksForText = true →
    (Regex.parse? (c.operator.pattern c.value.toText) false false).isSome = true

instance (c : Comparison) : Decidable c.Readable := inferInstanceAs (Decidable (_ → _))

end Comparison

/-! ## 2. What a condition says -/

namespace Condition

/-- The comparisons at the leaves. -/
def comparisons : Condition → List Comparison
  | .operand field operator value => [⟨field, operator, value⟩]
  | .logic _ left right => left.comparisons ++ right.comparisons
  | .not inner => inner.comparisons
  | .group inner => inner.comparisons

/-- What the condition says of a document. -/
def meaning (d : Document) : Condition → Bool
  | .operand field operator value =>
    Comparison.test ⟨field, operator, value⟩ (Path.resolve (Path.segments field) d)
  | .logic .and left right => left.meaning d && right.meaning d
  | .logic .or left right => left.meaning d || right.meaning d
  | .not inner => !inner.meaning d
  | .group inner => inner.meaning d

example : meaning [("tags", .array [.int32 1, .string "a"])] (.operand "tags" .eq (.int 1)) =
    true := by decide +kernel
example : meaning [] (.logic .and (.operand "a.b" .eq .null) (.not (.operand "a.b" .pr .null))) =
    true := by decide +kernel

end Condition

/-! ## 3. Comparisons as operators -/

namespace Query

/-- An array agrees with no literal. -/
theorem agrees_array_toBson (items : List Bson) (value : Literal) :
    (Bson.array items).agrees value.toBson = false := by
  cases value <;> rfl

theorem agrees_null_right (value : Literal) :
    value.toBson.agrees .null = value.toBson.isNull := by
  cases value <;> rfl

theorem equals_eq (field : Option Bson) (value : Literal) :
    equals field value.toBson = Comparison.equals field value.toBson := by
  cases field with
  | none => exact agrees_null_right value
  | some found =>
    by_cases harray : ∃ items, found = .array items
    · obtain ⟨items, rfl⟩ := harray
      have hagrees := agrees_array_toBson items value
      show _ = ((Bson.array items).agrees value.toBson || items.any (·.agrees value.toBson))
      rw [hagrees, Bool.false_or]
      cases value <;> rfl
    · have hnone : found.items = [] := by
        cases found <;> first | rfl | exact absurd ⟨_, rfl⟩ harray
      have hfound : equals (some found) value.toBson = found.agrees value.toBson := by
        cases found <;> first | rfl | exact absurd ⟨_, rfl⟩ harray
      rw [hfound, Comparison.equals, hnone, List.any_nil, Bool.or_false]

theorem order_beq_some {asked : Ordering → Bool} (o : Ordering) (h : ∀ p, (p == o) = asked p)
    (field : Option Bson) (value : Bson) :
    (order field value == some o) = Comparison.ordered field value asked := by
  show _ = (order field value).any asked
  cases order field value with
  | none => rfl
  | some p => exact h p

theorem isOrder_order {asked : Ordering → Bool} (first second : Ordering)
    (h : ∀ p, (p == first || p == second) = asked p) (field : Option Bson) (value : Bson) :
    isOrder (order field value) first second = Comparison.ordered field value asked := by
  show _ = (order field value).any asked
  cases order field value with
  | none => rfl
  | some p => exact h p

/-- The strings of an array are the texts that evaluation looks at in it. -/
theorem any_filterMap_asString? (items : List Bson) (p : String → Bool) :
    (items.filterMap Bson.asString?).any p =
      items.any fun item => match item with
        | .string s => p s
        | _ => false := by
  induction items with
  | nil => rfl
  | cons item rest ih =>
    rw [List.any_cons, ← ih, List.filterMap_cons]
    cases item <;> rfl

theorem matchesRegex_eq (field : Option Bson) (r : Regex) :
    matchesRegex field r = (fieldTexts field).any fun s => r.isMatch s.toList := by
  cases field with
  | none => rfl
  | some found =>
    cases found with
    | string s => exact (Bool.or_false _).symm
    | array items => exact (any_filterMap_asString? items _).symm
    | _ => rfl

/-- A pattern that can be read is matched, and gives no error. -/
theorem matchesText_eq {pattern : String} (field : Option Bson)
    (h : (Regex.parse? pattern false false).isSome = true) :
    matchesText field pattern "" = .ok (Comparison.matched field pattern) := by
  obtain ⟨r, hr⟩ := Option.isSome_iff_exists.mp h
  have hi : "".toList.contains 'i' = false := rfl
  have hm : "".toList.contains 'm' = false := rfl
  unfold matchesText Comparison.matched
  rw [hi, hm, hr]
  exact congrArg Except.ok (matchesRegex_eq field r)

/-- No literal is stored as a document, so that none is taken for operators. -/
theorem holdsOperator_toBson (field : Option Bson) (options op : String) (value : Literal) :
    holdsOperator field options op value.toBson = holdsPlain field options op value.toBson := by
  cases value <;> rfl

/-- Only a negation looks into the document that it is given. -/
theorem holdsOperator_of_ne_not {op : String} (h : op ≠ "$not") (field : Option Bson)
    (options : String) (operand : Bson) :
    holdsOperator field options op operand = holdsPlain field options op operand := by
  cases operand with
  | document inner => rw [holdsOperator, if_neg h]
  | _ => rfl

theorem holdsOperators_singleton (field : Option Bson) (options op : String) (operand : Bson) :
    holdsOperators field options [(op, operand)] = holdsOperator field options op operand := by
  rw [holdsOperators]
  cases holdsOperator field options op operand with
  | error e => rfl
  | ok b => cases b <;> rfl

theorem holdsOperators_single {field : Option Bson} {options op : String} {operand : Bson}
    {b : Bool} (h : holdsOperator field options op operand = .ok b) :
    holdsOperators field options [(op, operand)] = .ok b := by
  rw [holdsOperators_singleton, h]

/-- The operator that a comparison becomes holds exactly when the comparison does. -/
theorem holdsOperators_query {c : Comparison} (field : Option Bson) (h : c.Readable) :
    holdsOperators field (patternOptions (c.operator.query c.value)) (c.operator.query c.value) =
      .ok (c.test field) := by
  obtain ⟨name, op, value⟩ := c
  cases op with
  | eq =>
    refine holdsOperators_single ((holdsOperator_toBson ..).trans ?_)
    exact congrArg Except.ok (equals_eq field value)
  | ne =>
    refine holdsOperators_single ((holdsOperator_toBson ..).trans ?_)
    exact congrArg (fun b => Except.ok (!b)) (equals_eq field value)
  | gt =>
    refine holdsOperators_single ((holdsOperator_toBson ..).trans (congrArg Except.ok ?_))
    exact order_beq_some .gt (fun p => by cases p <;> rfl) field value.toBson
  | ge =>
    refine holdsOperators_single ((holdsOperator_toBson ..).trans (congrArg Except.ok ?_))
    exact isOrder_order .gt .eq (fun p => by cases p <;> rfl) field value.toBson
  | lt =>
    refine holdsOperators_single ((holdsOperator_toBson ..).trans (congrArg Except.ok ?_))
    exact order_beq_some .lt (fun p => by cases p <;> rfl) field value.toBson
  | le =>
    refine holdsOperators_single ((holdsOperator_toBson ..).trans (congrArg Except.ok ?_))
    exact isOrder_order .lt .eq (fun p => by cases p <;> rfl) field value.toBson
  | pr =>
    refine holdsOperators_single ?_
    show Except.ok (field.isSome == true) = .ok field.isSome
    rw [beq_true]
  | co => exact holdsOperators_single (matchesText_eq field (h rfl))
  | sw => exact holdsOperators_single (matchesText_eq field (h rfl))
  | ew => exact holdsOperators_single (matchesText_eq field (h rfl))

/-! ## 4. One key, and its negation -/

/-- The query has one key: a connective, or a path with operators for its value. -/
inductive SingleKey : Document → Prop where
  | clause (connective : Connective) (value : Bson) : SingleKey [(connective.key, value)]
  | field {key : String} (hkey : isOperatorKey key = false) {operators : Document}
      (hoperators : (Document.keys operators).all isOperatorKey = true) :
      SingleKey [(key, .document operators)]

theorem SingleKey.length_eq_one {q : Document} (h : SingleKey q) : q.length = 1 := by
  cases h <;> rfl

theorem all_isOperatorKey_single {name : String} (h : isOperatorKey name = true) (operand : Bson) :
    (Document.keys [(name, operand)]).all isOperatorKey = true := by
  simp [Document.keys, h]

theorem all_isOperatorKey_query (op : Operator) (value : Literal) :
    (Document.keys (op.query value)).all isOperatorKey = true := by
  cases op <;> exact all_isOperatorKey_single (by decide) _

/-- `$not` is an operator, so that a path keeps operators for its value. -/
theorem SingleKey.negateKeys {q : Document} (h : SingleKey q) : SingleKey (negateKeys q) := by
  cases h with
  | clause connective value => exact .clause connective _
  | field hkey hoperators => exact .field hkey (all_isOperatorKey_single (by decide) _)

theorem singleKey_query {key : String} (hkey : isOperatorKey key = false) (op : Operator)
    (value : Literal) : SingleKey [(key, .document (op.query value))] :=
  .field hkey (all_isOperatorKey_query op value)

theorem holds_single (d : Document) (key : String) (value : Bson) :
    holds d [(key, value)] = holdsKey d key value := by
  rw [holds]
  cases holdsKey d key value with
  | error e => rfl
  | ok b =>
    cases b with
    | true => show holds d [] = .ok true; rw [holds]
    | false => rfl

theorem holdsKey_clause (d : Document) (connective : Connective) (value : Bson) :
    holdsKey d connective.key value = holdsClause d connective value := by
  rw [holdsKey, Connective.ofKey?_key]

/-- A path is asked for the value that it leads to. -/
theorem holdsKey_path (d : Document) {path : String} (hpath : isOperatorKey path = false)
    (condition : Bson) :
    holdsKey d path condition = holdsField (Path.resolve (Path.segments path) d) condition := by
  rw [holdsKey, Connective.ofKey?_eq_none hpath]
  simp only [hpath, Bool.false_eq_true, if_false]

theorem holdsKey_field (d : Document) {key : String} (hkey : isOperatorKey key = false)
    {operators : Document} (hoperators : (Document.keys operators).all isOperatorKey = true) :
    holdsKey d key (.document operators) =
      holdsOperators (Path.resolve (Path.segments key) d) (patternOptions operators) operators := by
  rw [holdsKey_path d hkey, holdsField, if_pos hoperators]

/-- A path with a single operator. -/
theorem holds_operator (d : Document) {path : String} (hpath : isOperatorKey path = false)
    {op : String} (hop : isOperatorKey op = true) (operand : Bson) :
    holds d [(path, .document [(op, operand)])] =
      holdsOperator (Path.resolve (Path.segments path) d) (patternOptions [(op, operand)]) op
        operand := by
  rw [holds_single, holdsKey_field d hpath (all_isOperatorKey_single hop operand),
    holdsOperators_singleton]

/-- **Negating the key of such a query negates the query.**  An error stays an error. -/
theorem SingleKey.holds_negateKeys {q : Document} (h : SingleKey q) (d : Document) :
    holds d (Dossier.negateKeys q) = (holds d q).map (!·) := by
  cases h with
  | clause connective value =>
    show holds d [(connective.key, .document [("$not", value)])] = _
    rw [holds_single, holds_single, holdsKey_clause, holdsKey_clause, holdsClause]
  | @field key hkey operators hoperators =>
    show holds d [(key, .document [("$not", .document operators)])] = _
    rw [holds_single, holds_single, holdsKey_field d hkey hoperators,
      holdsKey_field d hkey (all_isOperatorKey_single (by decide) _), holdsOperators,
      holdsOperator, if_pos rfl]
    cases holdsOperators (Path.resolve (Path.segments key) d) (patternOptions operators)
      operators with
    | error e => rfl
    | ok b => cases b <;> rfl

/-! ## 5. Connectives -/

theorem holds_clause (d left right : Document) (connective : Connective) {l r : Bool}
    (hl : holds d left = .ok l) (hr : holds d right = .ok r) :
    holds d [(connective.key, .array [.document left, .document right])] =
      .ok (match connective with
        | .and => l && r
        | .or => l || r) := by
  rw [holds_single, holdsKey_clause, holdsClause, holdsQueries, holdsQueries, holdsQueries, hl, hr]
  cases connective <;> cases l <;> cases r <;> rfl

end Query

/-! ## 6. Conditions -/

namespace Condition

/-- All patterns of the condition can be read. -/
def Readable (c : Condition) : Prop := ∀ leaf ∈ c.comparisons, leaf.Readable

instance (c : Condition) : Decidable c.Readable :=
  inferInstanceAs (Decidable (∀ leaf ∈ c.comparisons, leaf.Readable))

/-- What compiling gives: a query of one key that says what the condition says. -/
structure Expressed (c : Condition) (q : Document) : Prop where
  singleKey : Query.SingleKey q
  holds (hreadable : c.Readable) (d : Document) : Query.holds d q = .ok (c.meaning d)

/-- The induction over the tree.  That the query has a single key is what lets a negation around
it through. -/
theorem exists_expressed {c : Condition} (hnamed : ∀ leaf ∈ c.comparisons, leaf.Named) :
    ∃ q, c.compile = .ok q ∧ c.Expressed q := by
  induction c with
  | operand field op value =>
    obtain ⟨hne, hkey⟩ := hnamed ⟨field, op, value⟩ (List.mem_singleton.mpr rfl)
    refine ⟨[(field, .document (op.query value))], if_neg hne, Query.singleKey_query hkey op value,
      fun hreadable d => ?_⟩
    have hleaf : Comparison.Readable ⟨field, op, value⟩ :=
      hreadable _ (List.mem_singleton.mpr rfl)
    rw [Query.holds_single, Query.holdsKey_field d hkey (Query.all_isOperatorKey_query op value)]
    exact Query.holdsOperators_query _ hleaf
  | logic connective left right ihl ihr =>
    obtain ⟨ql, hcl, hl⟩ := ihl fun leaf h => hnamed leaf (List.mem_append_left _ h)
    obtain ⟨qr, hcr, hr⟩ := ihr fun leaf h => hnamed leaf (List.mem_append_right _ h)
    refine ⟨[(connective.key, .array [.document ql, .document qr])], ?_, .clause _ _,
      fun hreadable d => ?_⟩
    · rw [compile, hcl, hcr]
      rfl
    · have hleft := hl.holds (fun leaf h => hreadable leaf (List.mem_append_left _ h)) d
      have hright := hr.holds (fun leaf h => hreadable leaf (List.mem_append_right _ h)) d
      rw [Query.holds_clause d ql qr connective hleft hright]
      cases connective <;> rfl
  | not inner ih =>
    obtain ⟨q, hc, hq⟩ := ih hnamed
    refine ⟨negateKeys q, ?_, hq.singleKey.negateKeys, fun hreadable d => ?_⟩
    · rw [compile, hc]
      rfl
    · rw [hq.singleKey.holds_negateKeys d, hq.holds hreadable d]
      rfl
  | group inner ih =>
    obtain ⟨q, hc, hq⟩ := ih hnamed
    exact ⟨q, hc, hq.singleKey, hq.holds⟩

/-- **A condition compiles to one key, and the query says what the condition means.**  Only the
second part needs that its patterns can be read. -/
theorem holds_compile (c : Condition) (hnamed : ∀ leaf ∈ c.comparisons, leaf.Named) :
    ∃ q, c.compile = .ok q ∧ q.length = 1 ∧
      (c.Readable → ∀ d, Query.holds d q = .ok (c.meaning d)) := by
  obtain ⟨q, hc, hq⟩ := exists_expressed hnamed
  exact ⟨q, hc, hq.singleKey.length_eq_one, hq.holds⟩

/-- A clause and an operator that are each negated twice, and a pattern with a point. -/
theorem holds_compile_negated :
    let c : Condition := .not (.not (.logic .or
      (.group (.not (.operand "name" .sw (.string "a.b"))))
      (.not (.not (.operand "home.city" .ne .null)))))
    (∀ leaf ∈ c.comparisons, leaf.Named) ∧ c.Readable ∧
      ∃ q, c.compile = .ok q ∧ q.length = 1 ∧ ∀ d, Query.holds d q = .ok (c.meaning d) := by
  refine ⟨by decide +kernel, by decide +kernel, ?_⟩
  obtain ⟨q, hc, hlength, hholds⟩ := holds_compile (.not (.not (.logic .or
    (.group (.not (.operand "name" .sw (.string "a.b"))))
    (.not (.not (.operand "home.city" .ne .null)))))) (by decide +kernel)
  exact ⟨q, hc, hlength, hholds (by decide +kernel)⟩

end Condition

end Dossier
