/-
# Equality and order in queries

`$eq` and the four operators of order look at a field in two ways.  Equality goes through agreement:
it takes a missing field for null and looks into arrays.  Order goes through `Bson.compare?`, which
knows neither null nor arrays.

Where a field has an order to a value the two ways meet.  `coherentOrder` says so for values without
parts: of `$lt`, `$eq` and `$gt` at most one holds, one of them does for values of one kind that are
no NaN, and `$lt` is a strict partial order, also across the three types of numbers.

Where it has none, the value may still be equal to the field: `Comparison.EqualsUnordered` has the
three cases.  So `ge` and `le` say "above or equal" and "below or equal" in all other cases, and in
these they say no, though `eq` says yes (`Condition.inclusive_iff`).

Main statements: `Query.coherentOrder`, `Condition.inclusive_iff`.
-/
import Dossier.Proofs.Bson.Order
import Dossier.Proofs.Query.Representation

namespace Dossier

namespace Query

/-! ## 1. One operator on one value -/

/-- What a query of one operator says of a document of one field. -/
def answer (key op : String) (u v : Bson) : Verdict :=
  holds [(key, u)] [(key, .document [(op, v)])]

/-- The operator that asks for an order. -/
def orderKey : Ordering → String
  | .lt => "$lt"
  | .eq => "$eq"
  | .gt => "$gt"

variable {key : String} {u v w : Bson}

theorem answer_eq (hkey : isOperatorKey key = false) (hpoint : '.' ∉ key.toList) {op : String}
    (hop : isOperatorKey op = true) (hne : op ≠ "$not") (u v : Bson) :
    answer key op u v = holdsPlain (some u) (patternOptions [(op, v)]) op v := by
  have hfound : Path.resolve (Path.segments key) [(key, u)] = some u := by
    rw [Path.segments_eq_singleton_iff.mpr ⟨rfl, hpoint⟩]
    simp [Path.resolve, Document.get?]
  rw [answer, holds_operator _ hkey hop, holdsOperator_of_ne_not hne, hfound]

/-- A value without parts equals what it compares as equal to. -/
theorem equals_of_ordered (hu : u.Ordered) (v : Bson) :
    equals (some u) v = (u.compare? v == some .eq) := by
  have hitems : u.items = [] := by
    cases u <;> first | rfl | cases hu
  rw [equals_some, hitems, List.map_nil, List.any_nil, Bool.and_false, Bool.or_false,
    Bool.eq_iff_iff, Bson.agrees_iff_compare? hu, beq_iff_eq]

/-- **Each of the three operators asks whether the order is its own.** -/
theorem answer_orderKey (hkey : isOperatorKey key = false) (hpoint : '.' ∉ key.toList)
    (hu : u.Ordered) (v : Bson) (o : Ordering) :
    answer key (orderKey o) u v = .ok (u.compare? v == some o) := by
  cases o with
  | lt => rw [answer_eq hkey hpoint (by decide) (by decide)]; rfl
  | gt => rw [answer_eq hkey hpoint (by decide) (by decide)]; rfl
  | eq =>
    rw [answer_eq hkey hpoint (by decide) (by decide)]
    exact congrArg Except.ok (equals_of_ordered hu v)

/-! ## 2. The order of values without parts -/

/-- The value is below another, by a query on the key. -/
def Below (key : String) (u v : Bson) : Prop := answer key "$lt" u v = .ok true

/-- The value is above another, by a query on the key. -/
def Above (key : String) (u v : Bson) : Prop := answer key "$gt" u v = .ok true

/-- Queries on the key order values without parts: a strict partial order, which with equality is
total on the values of each kind. -/
structure CoherentOrder (key : String) : Prop where
  /-- The operators give no error. -/
  answered (u v : Bson) (hu : u.Ordered) (hv : v.Ordered) (o : Ordering) :
    ∃ held, answer key (orderKey o) u v = .ok held
  above_iff (u v : Bson) (hu : u.Ordered) (hv : v.Ordered) : Below key u v ↔ Above key v u
  /-- At most one of the three operators holds. -/
  unique (u v : Bson) (hu : u.Ordered) (hv : v.Ordered) (o p : Ordering)
    (ho : answer key (orderKey o) u v = .ok true) (hp : answer key (orderKey p) u v = .ok true) :
    o = p
  /-- One of them does for values of one kind that are no NaN, and for no others. -/
  exists_iff (u v : Bson) (hu : u.Ordered) (hv : v.Ordered) :
    (∃ o, answer key (orderKey o) u v = .ok true) ↔
      u.kind? = v.kind? ∧ u.isNaN = false ∧ v.isNaN = false
  trans (u v w : Bson) (hu : u.Ordered) (hv : v.Ordered) (hw : w.Ordered)
    (huv : Below key u v) (hvw : Below key v w) : Below key u w
  irrefl (u : Bson) (hu : u.Ordered) : ¬ Below key u u

/-- **The order of queries is coherent.** -/
theorem coherentOrder (hkey : isOperatorKey key = false) (hpoint : '.' ∉ key.toList) :
    CoherentOrder key := by
  have hholds {u v : Bson} (hu : u.Ordered) (o : Ordering) :
      answer key (orderKey o) u v = .ok true ↔ u.compare? v = some o := by
    rw [answer_orderKey hkey hpoint hu, Except.ok.injEq, beq_iff_eq]
  have hbelow {u v : Bson} (hu : u.Ordered) : Below key u v ↔ u.compare? v = some .lt :=
    hholds hu .lt
  have habove {u v : Bson} (hu : u.Ordered) : Above key u v ↔ u.compare? v = some .gt :=
    hholds hu .gt
  constructor
  case answered =>
    intro u v hu _ o
    exact ⟨_, answer_orderKey hkey hpoint hu v o⟩
  case above_iff =>
    intro u v hu hv
    rw [hbelow hu, habove hv, ← Bson.compare?_swap u v]
    cases u.compare? v with
    | none => simp
    | some o => cases o <;> simp
  case unique =>
    intro u v hu _ o p ho hp
    rw [hholds hu] at ho hp
    exact Option.some.inj (ho.symm.trans hp)
  case exists_iff =>
    intro u v hu _
    simp only [hholds hu]
    rw [← Option.isSome_iff_exists, Bson.compare?_isSome_iff]
    exact and_iff_right hu
  case trans =>
    intro u v w hu hv _ huv hvw
    rw [hbelow hu] at *
    exact Bson.compare?_lt_trans huv ((hbelow hv).mp hvw)
  case irrefl =>
    intro u hu h
    exact Bson.compare?_self_ne_lt u ((hbelow hu).mp h)

namespace Example

/-- Around 2^53 two integers and a double between them are in order, and an integer beside the
double agrees with it. -/
theorem coherentOrder_level :
    let double : Bson := .double ⟨0x4340000000000000⟩
    (isOperatorKey "level" = false ∧ '.' ∉ "level".toList) ∧
    Below "level" (.int64 9007199254740991) (.int64 9007199254740994) ∧
    Above "level" (.int64 9007199254740994) double ∧
    answer "level" "$eq" (.int64 9007199254740993) double = .ok true ∧
    ¬ Below "level" (.int64 9007199254740993) double := by
  intro double
  have hlevel : isOperatorKey "level" = false ∧ '.' ∉ "level".toList := by decide
  have hcoherent := coherentOrder hlevel.1 hlevel.2
  have hscalar (n : Int64) : (Bson.int64 n).Ordered := rfl
  have hdouble : double.Ordered := rfl
  have hlow : Below "level" (.int64 9007199254740991) double :=
    (answer_orderKey hlevel.1 hlevel.2 (hscalar _) _ .lt).trans (by decide +kernel)
  have hhigh : Below "level" double (.int64 9007199254740994) :=
    (answer_orderKey hlevel.1 hlevel.2 hdouble _ .lt).trans (by decide +kernel)
  have hequal : answer "level" "$eq" (.int64 9007199254740993) double = .ok true :=
    (answer_orderKey hlevel.1 hlevel.2 (hscalar _) _ .eq).trans (by decide +kernel)
  refine ⟨hlevel, ?_, ?_, hequal, ?_⟩
  · exact hcoherent.trans _ _ _ (hscalar _) hdouble (hscalar _) hlow hhigh
  · exact (hcoherent.above_iff _ _ hdouble (hscalar _)).mp hhigh
  · intro hbelow
    have hsame := hcoherent.unique _ _ (hscalar _) hdouble .eq .lt hequal hbelow
    cases hsame

end Example

end Query

/-! ## 3. Equality where there is no order -/

namespace Comparison

/-- The field is equal to the value, and has no order to it: null is null or missing, or the value
is an item of an array. -/
inductive EqualsUnordered : Option Bson → Bson → Prop
  | missing : EqualsUnordered none .null
  | null : EqualsUnordered (some .null) .null
  | item {items : List Bson} {item value : Bson} (hitem : item ∈ items)
      (h : item.agrees value = true) : EqualsUnordered (some (.array items)) value

theorem EqualsUnordered.ordered_eq_false {field : Option Bson} {value : Bson}
    (h : EqualsUnordered field value) (asked : Ordering → Bool) :
    ordered field value asked = false := by
  cases h <;> rfl

/-- Of the values that have no order only null agrees with a literal, and only with null. -/
theorem agrees_toBson_iff {found : Bson} (h : ¬ found.Ordered) (value : Literal) :
    found.agrees value.toBson = true ↔ found = .null ∧ value.toBson = .null := by
  cases found <;> first
    | exact absurd rfl h
    | cases value <;>
        simp [Literal.toBson, Bson.agrees, Bson.agreesPlain, Bson.number?, Bson.same]

/-- What is equal to an ordered value has an order to it. -/
theorem EqualsUnordered.not_ordered {found value : Bson}
    (h : EqualsUnordered (some found) value) : ¬ found.Ordered := by
  intro hordered
  cases h with
  | null | item => cases hordered

theorem equalsUnordered_some_iff {found : Bson} (h : ¬ found.Ordered) (value : Literal) :
    EqualsUnordered (some found) value.toBson ↔ equals (some found) value.toBson = true := by
  rw [equals, Bool.or_eq_true, agrees_toBson_iff h, List.any_eq_true]
  constructor
  · generalize value.toBson = v
    intro hequals
    cases hequals with
    | null => exact .inl ⟨rfl, rfl⟩
    | item hitem hagrees => exact .inr ⟨_, hitem, hagrees⟩
  · rintro (⟨rfl, hnull⟩ | ⟨item, hitem, hagrees⟩)
    · rw [hnull]
      exact .null
    · cases found with
      | array items => exact .item hitem hagrees
      | _ => cases hitem

/-- **A field equals a literal if it compares as equal, or is equal without an order.** -/
theorem equals_iff (field : Option Bson) (value : Literal) :
    equals field value.toBson = true ↔
      ordered field value.toBson Ordering.isEq = true ∨ EqualsUnordered field value.toBson := by
  cases field with
  | none =>
    have hnull : value.toBson.isNull = true ↔ value.toBson = .null := by
      cases value <;> simp [Literal.toBson, Bson.isNull]
    have hordered : ordered none value.toBson Ordering.isEq = false := rfl
    rw [equals, hnull, hordered]
    constructor
    · intro h
      rw [h]
      exact .inr .missing
    · rintro (h | h)
      · cases h
      · generalize value.toBson = v at h
        cases h
        rfl
  | some found =>
    by_cases hordered : found.Ordered
    · have hequals := (Query.equals_eq (some found) value).symm.trans
        (Query.equals_of_ordered hordered value.toBson)
      have hsome : ordered (some found) value.toBson Ordering.isEq =
          (found.compare? value.toBson == some .eq) :=
        (Query.order_beq_some .eq (fun p => by cases p <;> rfl) (some found) value.toBson).symm
      rw [hequals, hsome, or_iff_left fun h => h.not_ordered hordered]
    · have hnone : found.compare? value.toBson = none := by
        rw [← Option.not_isSome_iff_eq_none, Bson.compare?_isSome_iff]
        exact fun h => hordered h.1
      have hsome : ordered (some found) value.toBson Ordering.isEq = false := by
        simp [ordered, hnone]
      rw [hsome, equalsUnordered_some_iff hordered]
      simp

/-- An order that includes equality. -/
theorem ordered_or (field : Option Bson) (value : Bson) (strict inclusive : Ordering → Bool)
    (h : ∀ o, inclusive o = (strict o || o.isEq)) :
    ordered field value inclusive =
      (ordered field value strict || ordered field value Ordering.isEq) := by
  unfold ordered
  cases field.bind fun found => found.compare? value with
  | none => rfl
  | some o => exact h o

end Comparison

/-! ## 4. Conditions -/

namespace Condition

/-- The condition compiles, and its query gives an answer on the document. -/
def Answers (c : Condition) (d : Document) (held : Bool) : Prop :=
  ∃ q, c.compile = .ok q ∧ Query.holds d q = .ok held

/-- There is one answer. -/
theorem Answers.eq {c : Condition} {d : Document} {held other : Bool} (h : c.Answers d held)
    (h' : c.Answers d other) : held = other := by
  obtain ⟨q, hq, hheld⟩ := h
  obtain ⟨q', hq', hother⟩ := h'
  cases Except.ok.inj (hq.symm.trans hq')
  exact Except.ok.inj (hheld.symm.trans hother)

/-- The operators that compare a value as a whole: it is equal, above or below. -/
def comparing : List Operator := [.eq, .gt, .ge, .lt, .le]

/-- A comparison compiles, and its query answers with what it tests. -/
theorem answers_operand {field : String} (hname : field ≠ "") (hkey : isOperatorKey field = false)
    {op : Operator} (hop : op ∈ comparing) (value : Literal) (d : Document) :
    (operand field op value).Answers d
      (Comparison.test ⟨field, op, value⟩ (Path.resolve (Path.segments field) d)) := by
  have hreadable : Comparison.Readable ⟨field, op, value⟩ := by
    intro htext
    simp only [comparing, List.mem_cons, List.not_mem_nil, or_false] at hop
    rcases hop with rfl | rfl | rfl | rfl | rfl <;> cases htext
  refine ⟨_, if_neg hname, ?_⟩
  rw [Query.holds_single, Query.holdsKey_field d hkey (Query.all_isOperatorKey_query op value)]
  exact Query.holdsOperators_query _ hreadable

/-- **At or above is above or equal, and at or below is below or equal**, unless the value of the
field is equal to the literal without having an order to it.  Then only the equality holds. -/
theorem inclusive_iff {field : String} (hname : field ≠ "") (hkey : isOperatorKey field = false)
    (value : Literal) (d : Document) :
    let found := Path.resolve (Path.segments field) d
    ∃ answers : Operator → Bool,
      (∀ op ∈ comparing, (operand field op value).Answers d (answers op)) ∧
      (¬ Comparison.EqualsUnordered found value.toBson →
        (answers .ge = true ↔ answers .gt = true ∨ answers .eq = true) ∧
        (answers .le = true ↔ answers .lt = true ∨ answers .eq = true)) ∧
      (Comparison.EqualsUnordered found value.toBson →
        answers .eq = true ∧ ∀ op ∈ [Operator.gt, .ge, .lt, .le], answers op = false) := by
  intro found
  refine ⟨fun op => Comparison.test ⟨field, op, value⟩ found,
    fun op hop => answers_operand hname hkey hop value d, fun hunordered => ?_,
    fun hunordered => ?_⟩
  · have hequals := Comparison.equals_iff found value
    rw [or_iff_left hunordered] at hequals
    have hge := Comparison.ordered_or found value.toBson Ordering.isGT Ordering.isGE (by decide)
    have hle := Comparison.ordered_or found value.toBson Ordering.isLT Ordering.isLE (by decide)
    simp [Comparison.test, hequals, hge, hle]
  · refine ⟨(Comparison.equals_iff found value).mpr (.inr hunordered), ?_⟩
    simp [Comparison.test, hunordered.ordered_eq_false]

namespace Example

/-- A level inside a document, and a literal of another type that is equal to it. -/
theorem inclusive_level :
    let d : Document := [("tank", .document [("level", .int32 5)])]
    let five : Literal := .double ⟨0x4014000000000000⟩
    ("tank.level" ≠ "" ∧ isOperatorKey "tank.level" = false) ∧
      ¬ Comparison.EqualsUnordered (Path.resolve (Path.segments "tank.level") d) five.toBson ∧
      ∃ answers : Operator → Bool,
        (∀ op ∈ comparing, (operand "tank.level" op five).Answers d (answers op)) ∧
        (answers .ge = true ↔ answers .gt = true ∨ answers .eq = true) ∧
        (answers .le = true ↔ answers .lt = true ∨ answers .eq = true) := by
  intro d five
  have hlevel : "tank.level" ≠ "" ∧ isOperatorKey "tank.level" = false := by decide
  have hunordered :
      ¬ Comparison.EqualsUnordered (Path.resolve (Path.segments "tank.level") d) five.toBson := by
    have hfound : Path.resolve (Path.segments "tank.level") d = some (.int32 5) := by rfl
    rw [hfound]
    exact fun h => h.not_ordered rfl
  obtain ⟨answers, hanswers, hinclusive, -⟩ := inclusive_iff hlevel.1 hlevel.2 five d
  exact ⟨hlevel, hunordered, answers, hanswers, hinclusive hunordered⟩

/-- **What is equal need not be at or above, nor at or below**: a field that is missing is equal to
null, and an array to an item of it. -/
theorem equal_not_inclusive :
    ¬ ((operand "a" .ge .null).Answers [] true ↔
      (operand "a" .gt .null).Answers [] true ∨ (operand "a" .eq .null).Answers [] true) ∧
    ¬ ((operand "a" .le (.int 5)).Answers [("a", .array [.int32 5])] true ↔
      (operand "a" .lt (.int 5)).Answers [("a", .array [.int32 5])] true ∨
      (operand "a" .eq (.int 5)).Answers [("a", .array [.int32 5])] true) := by
  have hanswers (op : Operator) (hop : op ∈ comparing) (value : Literal) (d : Document) :=
    @answers_operand "a" (by decide) (by decide) op hop value d
  constructor
  · intro h
    have hge := h.mpr (.inr (hanswers .eq (by decide) _ _))
    cases hge.eq (hanswers .ge (by decide) _ _)
  · intro h
    have hle := h.mpr (.inr (hanswers .eq (by decide) _ _))
    cases hle.eq (hanswers .le (by decide) _ _)

end Example

end Condition

end Dossier
