/-
# The documents that a query is rejected on

A single operator is malformed or it is not, whatever the field (`holdsPlain_eq_error_iff`).  A
query as a whole is looked at in order and only up to what decides, so that a fault in it comes to
light on some documents and not on others.

On which ones is itself a question that a query can ask.  The `forecast` of a query is made without
a document: a query for the documents that it holds of, a query for those that it is rejected on,
and its faults in the order of reading.  The two queries are never rejected themselves.  They are
put together as evaluation goes: what stands behind a key is looked at where the key holds, what
stands behind a clause of `$or` where the clause does not.

Main statement: `rejected_iff`.
-/
import Dossier.Proofs.Query.Representation

namespace Dossier

namespace Query

/-! ## 1. Queries made of queries -/

/-- A query that holds of no document. -/
def never : Document := [(Connective.or.key, .array [])]

def both (q r : Document) : Document := [(Connective.and.key, .array [.document q, .document r])]

def either (q r : Document) : Document := [(Connective.or.key, .array [.document q, .document r])]

def neither (q r : Document) : Document := negateKeys (either q r)

theorem holds_nil (d : Document) : holds d [] = .ok true := by
  rw [holds]

theorem holds_never (d : Document) : holds d never = .ok false := by
  rw [never, holds_single, holdsKey_clause, holdsClause, holdsQueries]
  rfl

theorem holds_both {d q r : Document} {x y : Bool} (hq : holds d q = .ok x)
    (hr : holds d r = .ok y) : holds d (both q r) = .ok (x && y) :=
  holds_clause d q r .and hq hr

theorem holds_either {d q r : Document} {x y : Bool} (hq : holds d q = .ok x)
    (hr : holds d r = .ok y) : holds d (either q r) = .ok (x || y) :=
  holds_clause d q r .or hq hr

theorem holds_neither {d q r : Document} {x y : Bool} (hq : holds d q = .ok x)
    (hr : holds d r = .ok y) : holds d (neither q r) = .ok (!(x || y)) := by
  have hsingle : SingleKey (either q r) := .clause .or _
  rw [neither, hsingle.holds_negateKeys, holds_either hq hr]
  rfl

/-! ## 2. Forecasts -/

def accepts : Verdict → Bool
  | .ok held => held
  | .error _ => false

def rejects : Verdict → Bool
  | .ok _ => false
  | .error _ => true

/-- What can be told of a query without a document. -/
structure Forecast where
  /-- Holds of the documents that the query holds of. -/
  accepting : Document
  /-- Holds of the documents that the query is rejected on. -/
  rejecting : Document
  /-- The faults of the query, in the order of reading. -/
  faults : List DocumentFault

namespace Forecast

/-- The forecast is right about a part of a query, which gives a verdict on each document. -/
structure Describes (f : Forecast) (verdict : Document → Verdict) : Prop where
  accepting (d : Document) : holds d f.accepting = .ok (accepts (verdict d))
  rejecting (d : Document) : holds d f.rejecting = .ok (rejects (verdict d))
  faults {d : Document} {e : DocumentFault} (h : verdict d = .error e) : e ∈ f.faults

/-- A part that holds of all documents. -/
def always : Forecast := ⟨[], never, []⟩

/-- A part that is rejected on all documents. -/
def fault (e : DocumentFault) : Forecast := ⟨never, [], [e]⟩

/-- A part without faults, as a query. -/
def sound (q : Document) : Forecast := ⟨q, never, []⟩

protected def not (f : Forecast) : Forecast :=
  ⟨neither f.accepting f.rejecting, f.rejecting, f.faults⟩

/-- Two parts of which the second is looked at where the first holds. -/
def andThen (f g : Forecast) : Forecast :=
  ⟨both f.accepting g.accepting, either f.rejecting (both f.accepting g.rejecting),
    f.faults ++ g.faults⟩

/-- Two parts of which the second is looked at where the first does not hold. -/
def orElse (f g : Forecast) : Forecast := (f.not.andThen g.not).not

variable {f g : Forecast} {v w : Document → Verdict}

theorem Describes.congr (h : f.Describes v) (hvw : ∀ d, w d = v d) : f.Describes w := by
  rw [funext hvw]
  exact h

theorem describes_always : always.Describes fun _ => .ok true :=
  ⟨holds_nil, holds_never, nofun⟩

theorem describes_fault (e : DocumentFault) : (fault e).Describes fun _ => .error e :=
  ⟨holds_never, holds_nil, fun h => List.mem_singleton.mpr (Except.error.inj h).symm⟩

theorem describes_sound {q : Document} {held : Document → Bool}
    (h : ∀ d, holds d q = .ok (held d)) : (sound q).Describes fun d => .ok (held d) :=
  ⟨h, holds_never, nofun⟩

theorem Describes.not (h : f.Describes v) : f.not.Describes fun d => (v d).map (!·) := by
  constructor
  case accepting =>
    intro d
    rw [Forecast.not, holds_neither (h.accepting d) (h.rejecting d)]
    cases v d <;> simp [accepts, rejects, Except.map]
  case rejecting =>
    intro d
    rw [Forecast.not, h.rejecting]
    cases v d <;> rfl
  case faults =>
    intro d e he
    refine h.faults (d := d) ?_
    cases hv : v d with
    | error e' => rw [hv] at he; exact he
    | ok b => rw [hv] at he; cases he

theorem Describes.andThen (hf : f.Describes v) (hg : g.Describes w) :
    (f.andThen g).Describes fun d => (do if ← v d then w d else return false) := by
  constructor
  case accepting =>
    intro d
    rw [Forecast.andThen, holds_both (hf.accepting d) (hg.accepting d)]
    cases v d with
    | error e => rfl
    | ok b => cases b <;> rfl
  case rejecting =>
    intro d
    have hlater := holds_both (hf.accepting d) (hg.rejecting d)
    rw [Forecast.andThen, holds_either (hf.rejecting d) hlater]
    cases v d with
    | error e => rfl
    | ok b => cases b <;> rfl
  case faults =>
    intro d e he
    refine List.mem_append.mpr ?_
    cases hv : v d with
    | error e' =>
      rw [hv] at he
      cases he
      exact .inl (hf.faults hv)
    | ok b =>
      rw [hv] at he
      cases b with
      | true => exact .inr (hg.faults he)
      | false => cases he

theorem Describes.orElse (hf : f.Describes v) (hg : g.Describes w) :
    (f.orElse g).Describes fun d => (do if ← v d then return true else w d) := by
  have h := (hf.not.andThen hg.not).not
  have hverdict : (fun d => Except.map (!·) (do
      if ← Except.map (!·) (v d) then Except.map (!·) (w d) else return false)) =
      fun d => (do if ← v d then return true else w d) := by
    funext d
    cases v d with
    | error e => rfl
    | ok b =>
      cases b with
      | true => rfl
      | false => cases w d <;> simp [Except.map, bind, Except.bind]
  rw [hverdict] at h
  exact h

end Forecast

/-! ## 3. Single operators -/

theorem matchesText_eq_error_iff (field other : Option Bson) {pattern options : String}
    {e : DocumentFault} :
    matchesText field pattern options = .error e ↔
      matchesText other pattern options = .error e := by
  unfold matchesText
  split
  · exact iff_of_false nofun nofun
  · exact Iff.rfl

theorem map_not_eq_error_iff {v : Verdict} {e : DocumentFault} :
    v.map (!·) = .error e ↔ v = .error e := by
  cases v with
  | error e' => exact Iff.rfl
  | ok b => exact iff_of_false nofun nofun

/-- **Whether a single operator is malformed does not depend on the field.** -/
theorem holdsPlain_eq_error_iff (field other : Option Bson) {options op : String} {operand : Bson}
    {e : DocumentFault} :
    holdsPlain field options op operand = .error e ↔
      holdsPlain other options op operand = .error e := by
  unfold holdsPlain
  split
  case h_8 =>
    cases operand with
    | string | regex => exact matchesText_eq_error_iff field other
    | _ => exact Iff.rfl
  case h_10 =>
    split
    · rw [map_not_eq_error_iff, map_not_eq_error_iff]
      exact matchesText_eq_error_iff field other
    · exact Iff.rfl
  case h_11 => exact Iff.rfl
  all_goals exact iff_of_false nofun nofun

/-- The fault of a single operator, as it shows on a missing field. -/
def operatorFault? (options op : String) (operand : Bson) : Option DocumentFault :=
  match holdsPlain none options op operand with
  | .error e => some e
  | .ok _ => none

variable {options op path : String} {operand : Bson}

theorem holdsPlain_of_fault {e : DocumentFault} (h : operatorFault? options op operand = some e)
    (field : Option Bson) : holdsPlain field options op operand = .error e := by
  rw [holdsPlain_eq_error_iff field none]
  unfold operatorFault? at h
  split at h
  · cases h
    assumption
  · cases h

theorem holdsPlain_of_no_fault (h : operatorFault? options op operand = none)
    (field : Option Bson) :
    holdsPlain field options op operand = .ok (accepts (holdsPlain field options op operand)) := by
  cases hfield : holdsPlain field options op operand with
  | ok held => rfl
  | error e =>
    rw [holdsPlain_eq_error_iff field none] at hfield
    rw [operatorFault?, hfield] at h
    cases h

theorem holdsPlain_of_not_operator (h : isOperatorKey op = false) (field : Option Bson)
    (options : String) (operand : Bson) :
    holdsPlain field options op operand = .error (.queryOperator op) := by
  unfold holdsPlain
  split <;> first | rfl | exact absurd h (by decide)

theorem isOperatorKey_of_no_fault (h : operatorFault? options op operand = none) :
    isOperatorKey op = true := by
  by_contra hop
  rw [operatorFault?, holdsPlain_of_not_operator ((Bool.not_eq_true _).mp hop)] at h
  cases h

/-- A negated document is no operator by itself, so what looks into documents is not met. -/
theorem holdsOperator_of_no_fault (h : operatorFault? options op operand = none)
    (field : Option Bson) :
    holdsOperator field options op operand = holdsPlain field options op operand := by
  cases operand with
  | document inner =>
    by_cases hnot : op = "$not"
    · subst hnot
      cases h
    · exact holdsOperator_of_ne_not hnot field options _
  | _ => rfl

/-- A query for a single operator, with the options that stand beside it. -/
def operatorQuery (path options op : String) (operand : Bson) : Document :=
  [(path, .document [(op, operand), ("$options", .string options)])]

theorem holds_operatorQuery (hpath : isOperatorKey path = false) (hne : op ≠ "$options")
    (h : operatorFault? options op operand = none) (d : Document) :
    holds d (operatorQuery path options op operand) =
      holdsPlain (Path.resolve (Path.segments path) d) options op operand := by
  have hkeys : (Document.keys [(op, operand), ("$options", .string options)]).all isOperatorKey =
      true := by
    simp only [Document.keys, List.map_cons, List.map_nil, List.all_cons, List.all_nil,
      isOperatorKey_of_no_fault h]
    decide
  have hoptions : patternOptions [(op, operand), ("$options", .string options)] = options := by
    simp [patternOptions, Document.get?, hne, Bson.asString?]
  rw [operatorQuery, holds_single, holdsKey_field d hpath hkeys, hoptions, holdsOperators,
    holdsOperator_of_no_fault h, holdsOperators_singleton]
  generalize holdsPlain _ options op operand = verdict
  cases verdict with
  | error e => rfl
  | ok b => cases b <;> rfl

/-- The forecast of a single operator on a path. -/
def forecastPlain (path options op : String) (operand : Bson) : Forecast :=
  match operatorFault? options op operand with
  | some e => .fault e
  | none => if op = "$options" then .always else .sound (operatorQuery path options op operand)

theorem describes_plain (hpath : isOperatorKey path = false) (options op : String)
    (operand : Bson) :
    (forecastPlain path options op operand).Describes fun d =>
      holdsPlain (Path.resolve (Path.segments path) d) options op operand := by
  unfold forecastPlain
  split
  · rename_i e hfault
    simp only [holdsPlain_of_fault hfault]
    exact Forecast.describes_fault e
  · rename_i hfault
    split
    · rename_i hoptions
      subst hoptions
      exact Forecast.describes_always
    · rename_i hne
      have hholds (d : Document) := holdsPlain_of_no_fault hfault
        (Path.resolve (Path.segments path) d)
      have h := Forecast.describes_sound fun d =>
        (holds_operatorQuery hpath hne hfault d).trans (hholds d)
      simp only [← hholds] at h
      exact h

/-! ## 4. Whole queries -/

mutual

/-- The forecast of one operator on a path, or of the negation of a document of operators. -/
def forecastOperator (path options op : String) : Bson → Forecast
  | .document inner =>
    if op = "$not" then (forecastOperators path (patternOptions inner) inner).not
    else forecastPlain path options op (.document inner)
  | operand => forecastPlain path options op operand

def forecastOperators (path options : String) : List (String × Bson) → Forecast
  | [] => .always
  | (op, operand) :: rest =>
    (forecastOperator path options op operand).andThen (forecastOperators path options rest)

end

def forecastField (path : String) (condition : Bson) : Forecast :=
  match condition with
  | .document operators =>
    if (Document.keys operators).all isOperatorKey then
      forecastOperators path (patternOptions operators) operators
    else .sound [(path, condition)]
  | _ => .sound [(path, condition)]

mutual

/-- The forecast of a query. -/
def forecast : List (String × Bson) → Forecast
  | [] => .always
  | (key, condition) :: rest => (forecastKey key condition).andThen (forecast rest)

def forecastKey (key : String) (condition : Bson) : Forecast :=
  match Connective.ofKey? key with
  | some connective => forecastClause connective condition
  | none =>
    if isOperatorKey key then .fault (.topLevelOperator key) else forecastField key condition

def forecastClause (connective : Connective) : Bson → Forecast
  | .array queries => forecastQueries connective queries
  | .document [("$not", inner)] => (forecastClause connective inner).not
  | _ => .fault (.clausesExpected connective.key)

/-- A query of `$or` that does not hold, and one of `$and` that does, leaves the rest to be looked
at. -/
def forecastQueries (connective : Connective) : List Bson → Forecast
  | [] =>
    match connective with
    | .and => .always
    | .or => Forecast.always.not
  | .document query :: rest =>
    match connective with
    | .and => (forecast query).andThen (forecastQueries connective rest)
    | .or => (forecast query).orElse (forecastQueries connective rest)
  | _ :: _ => .fault (.clausesExpected connective.key)

end

mutual

theorem describes_operator (hpath : isOperatorKey path = false) (options op : String)
    (operand : Bson) :
    (forecastOperator path options op operand).Describes fun d =>
      holdsOperator (Path.resolve (Path.segments path) d) options op operand := by
  cases operand with
  | document inner =>
    simp only [forecastOperator, holdsOperator]
    split
    · exact (describes_operators hpath (patternOptions inner) inner).not
    · exact describes_plain hpath options op _
  | _ => exact describes_plain hpath options op _

theorem describes_operators (hpath : isOperatorKey path = false) (options : String)
    (operators : List (String × Bson)) :
    (forecastOperators path options operators).Describes fun d =>
      holdsOperators (Path.resolve (Path.segments path) d) options operators := by
  match operators with
  | [] =>
    simp only [forecastOperators, holdsOperators]
    exact Forecast.describes_always
  | (op, operand) :: rest =>
    simp only [forecastOperators, holdsOperators]
    exact (describes_operator hpath options op operand).andThen
      (describes_operators hpath options rest)

end

theorem describes_field (hpath : isOperatorKey path = false) (condition : Bson) :
    (forecastField path condition).Describes fun d =>
      holdsField (Path.resolve (Path.segments path) d) condition := by
  have hplain (h : ∀ field, holdsField field condition = .ok (equals field condition)) :
      (Forecast.sound [(path, condition)]).Describes fun d =>
        holdsField (Path.resolve (Path.segments path) d) condition := by
    refine (Forecast.describes_sound fun d => ?_).congr fun d => h _
    rw [holds_single, holdsKey_path d hpath, h]
  cases condition with
  | document operators =>
    rw [forecastField]
    split
    · rename_i hkeys
      refine (describes_operators hpath _ operators).congr fun d => ?_
      rw [holdsField, if_pos hkeys]
    · rename_i hkeys
      exact hplain fun field => if_neg hkeys
  | _ => exact hplain fun field => rfl

-- As in evaluation, only `forecastKey` comes to a path.
mutual

theorem describes_query (query : List (String × Bson)) :
    (forecast query).Describes fun d => holds d query := by
  match query with
  | [] =>
    rw [forecast]
    exact Forecast.describes_always.congr holds_nil
  | (key, condition) :: rest =>
    rw [forecast]
    refine ((describes_key key condition).andThen (describes_query rest)).congr fun d => ?_
    rw [holds]

theorem describes_key (key : String) (condition : Bson) :
    (forecastKey key condition).Describes fun d => holdsKey d key condition := by
  rw [forecastKey]
  cases hconnective : Connective.ofKey? key with
  | some connective =>
    refine (describes_clause connective condition).congr fun d => ?_
    rw [holdsKey, hconnective]
  | none =>
    by_cases hkey : isOperatorKey key = true
    · simp only [hkey, if_true]
      refine (Forecast.describes_fault _).congr fun d => ?_
      rw [holdsKey, hconnective]
      exact if_pos hkey
    · simp only [hkey]
      have hpath := (Bool.not_eq_true _).mp hkey
      exact (describes_field hpath condition).congr fun d => holdsKey_path d hpath condition

theorem describes_clause (connective : Connective) (clause : Bson) :
    (forecastClause connective clause).Describes fun d => holdsClause d connective clause := by
  rw [forecastClause.eq_def]
  split
  · refine (describes_queries connective _).congr fun d => ?_
    rw [holdsClause]
  · refine (describes_clause connective _).not.congr fun d => ?_
    rw [holdsClause]
  · refine (Forecast.describes_fault _).congr fun d => ?_
    rw [holdsClause]
    · assumption
    · assumption

theorem describes_queries (connective : Connective) (queries : List Bson) :
    (forecastQueries connective queries).Describes fun d => holdsQueries d connective queries := by
  rw [forecastQueries.eq_def]
  split
  · cases connective with
    | and => exact Forecast.describes_always.congr fun d => by rw [holdsQueries]; rfl
    | or => exact Forecast.describes_always.not.congr fun d => by rw [holdsQueries]; rfl
  · rename_i query rest
    have hquery := describes_query query
    have hrest := describes_queries connective rest
    cases connective with
    | and =>
      refine (hquery.andThen hrest).congr fun d => ?_
      rw [holdsQueries]
      cases holds d query with
      | error e => rfl
      | ok b => cases b <;> rfl
    | or =>
      refine (hquery.orElse hrest).congr fun d => ?_
      rw [holdsQueries]
      cases holds d query with
      | error e => rfl
      | ok b => cases b <;> rfl
  · refine (Forecast.describes_fault _).congr fun d => ?_
    rw [holdsQueries]
    assumption

end

/-! ## 5. Forecasts are documents -/

namespace Forecast

/-- Both queries have each key once, at any depth. -/
structure WellKeyed (f : Forecast) : Prop where
  accepting : f.accepting.WellKeyed
  rejecting : f.rejecting.WellKeyed

theorem wellKeyed_single (key : String) {value : Bson} (h : value.WellKeyed) :
    Document.WellKeyed [(key, value)] :=
  ⟨fun _ hother => absurd hother List.not_mem_nil, h, trivial⟩

theorem wellKeyed_never : never.WellKeyed := wellKeyed_single _ trivial

theorem wellKeyed_always : always.WellKeyed := ⟨trivial, wellKeyed_never⟩

theorem wellKeyed_fault (e : DocumentFault) : (fault e).WellKeyed := ⟨wellKeyed_never, trivial⟩

theorem wellKeyed_sound {q : Document} (h : q.WellKeyed) : (sound q).WellKeyed :=
  ⟨h, wellKeyed_never⟩

theorem wellKeyed_pair (connective : Connective) {q r : Document} (hq : q.WellKeyed)
    (hr : r.WellKeyed) :
    Document.WellKeyed [(connective.key, .array [.document q, .document r])] :=
  wellKeyed_single _ ⟨hq, hr, trivial⟩

variable {f g : Forecast}

theorem WellKeyed.not (h : f.WellKeyed) : f.not.WellKeyed :=
  ⟨wellKeyed_single _ (wellKeyed_single _ ⟨h.accepting, h.rejecting, trivial⟩), h.rejecting⟩

theorem WellKeyed.andThen (hf : f.WellKeyed) (hg : g.WellKeyed) : (f.andThen g).WellKeyed :=
  ⟨wellKeyed_pair .and hf.accepting hg.accepting,
    wellKeyed_pair .or hf.rejecting (wellKeyed_pair .and hf.accepting hg.rejecting)⟩

theorem WellKeyed.orElse (hf : f.WellKeyed) (hg : g.WellKeyed) : (f.orElse g).WellKeyed :=
  (hf.not.andThen hg.not).not

end Forecast

theorem wellKeyed_plain (path options op : String) {operand : Bson} (h : operand.WellKeyed) :
    (forecastPlain path options op operand).WellKeyed := by
  unfold forecastPlain
  split
  · exact Forecast.wellKeyed_fault _
  · split
    · exact Forecast.wellKeyed_always
    · rename_i hne
      refine Forecast.wellKeyed_sound (Forecast.wellKeyed_single _ ⟨?_, h, ?_⟩)
      · intro other hother
        cases List.mem_singleton.mp hother
        exact fun heq => hne heq.symm
      · exact Forecast.wellKeyed_single _ trivial

mutual

theorem wellKeyed_operator (path options op : String) (operand : Bson) (h : operand.WellKeyed) :
    (forecastOperator path options op operand).WellKeyed := by
  cases operand with
  | document inner =>
    rw [forecastOperator]
    split
    · exact (wellKeyed_operators path (patternOptions inner) inner h).not
    · exact wellKeyed_plain path options op h
  | _ => exact wellKeyed_plain path options op h

theorem wellKeyed_operators (path options : String) (operators : List (String × Bson))
    (h : Bson.WellKeyedFields operators) :
    (forecastOperators path options operators).WellKeyed := by
  match operators with
  | [] =>
    rw [forecastOperators]
    exact Forecast.wellKeyed_always
  | (op, operand) :: rest =>
    rw [forecastOperators]
    exact (wellKeyed_operator path options op operand h.2.1).andThen
      (wellKeyed_operators path options rest h.2.2)

end

theorem wellKeyed_field (path : String) {condition : Bson} (h : condition.WellKeyed) :
    (forecastField path condition).WellKeyed := by
  have hplain := Forecast.wellKeyed_sound (Forecast.wellKeyed_single path h)
  cases condition with
  | document operators =>
    rw [forecastField]
    split
    · exact wellKeyed_operators path _ operators h
    · exact hplain
  | _ => exact hplain

mutual

theorem wellKeyed_query (query : List (String × Bson)) (h : Bson.WellKeyedFields query) :
    (forecast query).WellKeyed := by
  match query with
  | [] =>
    rw [forecast]
    exact Forecast.wellKeyed_always
  | (key, condition) :: rest =>
    rw [forecast]
    exact (wellKeyed_key key condition h.2.1).andThen (wellKeyed_query rest h.2.2)

theorem wellKeyed_key (key : String) (condition : Bson) (h : condition.WellKeyed) :
    (forecastKey key condition).WellKeyed := by
  rw [forecastKey]
  split
  · exact wellKeyed_clause _ condition h
  · split
    · exact Forecast.wellKeyed_fault _
    · exact wellKeyed_field key h

theorem wellKeyed_clause (connective : Connective) (clause : Bson) (h : clause.WellKeyed) :
    (forecastClause connective clause).WellKeyed := by
  rw [forecastClause.eq_def]
  split
  · exact wellKeyed_queries connective _ h
  · exact (wellKeyed_clause connective _ h.2.1).not
  · exact Forecast.wellKeyed_fault _

theorem wellKeyed_queries (connective : Connective) (queries : List Bson)
    (h : Bson.WellKeyedItems queries) : (forecastQueries connective queries).WellKeyed := by
  rw [forecastQueries.eq_def]
  split
  · cases connective with
    | and => exact Forecast.wellKeyed_always
    | or => exact Forecast.wellKeyed_always.not
  · rename_i query rest
    have hquery := wellKeyed_query query h.1
    have hrest := wellKeyed_queries connective rest h.2
    cases connective with
    | and => exact hquery.andThen hrest
    | or => exact hquery.orElse hrest
  · exact Forecast.wellKeyed_fault _

end

/-! ## 6. Rejection -/

/-- A query for the documents that a query is rejected on. -/
def rejection (query : Document) : Document := (forecast query).rejecting

/-- The faults of a query, in the order of reading. -/
def faults (query : Document) : List DocumentFault := (forecast query).faults

theorem rejects_iff {v : Verdict} : rejects v = true ↔ ∃ e, v = .error e := by
  cases v <;> simp [rejects]

/-- **A query is rejected on the documents that another query holds of.**  The other query is made
without a document and never rejected itself.  So a query is rejected on both of two documents or on
neither, exactly if the other query answers both alike.  What is reported is one of the faults of
the query. -/
theorem rejected_iff (query : Document) :
    (query.WellKeyed → (rejection query).WellKeyed) ∧
    (∀ d, ∃ rejected, holds d (rejection query) = .ok rejected ∧
      (rejected = true ↔ ∃ e, holds d query = .error e)) ∧
    (∀ d e, holds d query = .error e → e ∈ faults query) ∧
    ∀ d d', ((∃ e, holds d query = .error e) ↔ ∃ e, holds d' query = .error e) ↔
      holds d (rejection query) = holds d' (rejection query) := by
  have hdescribes := describes_query query
  refine ⟨fun h => (wellKeyed_query query h).rejecting, fun d => ?_, fun d e => ?_, fun d d' => ?_⟩
  · exact ⟨_, hdescribes.rejecting d, rejects_iff⟩
  · exact hdescribes.faults
  · rw [rejection, hdescribes.rejecting d, hdescribes.rejecting d', Except.ok.injEq,
      Bool.eq_iff_iff, rejects_iff, rejects_iff]

namespace Example

/-- The second key has an operator that is none. -/
def halfSound : Document := [("a", .int32 1), ("b", .document [("$in", .array [])])]

/-- **The document decides whether a query is rejected**: where the first key does not hold, the
second is not looked at. -/
theorem rejected_on_one :
    ¬ ((∃ e, holds [("a", .int32 1)] halfSound = .error e) ↔
      ∃ e, holds [("a", .int32 2)] halfSound = .error e) := by
  have hrejected : holds [("a", .int32 1)] halfSound = .error (.queryOperator "$in") := by cbv
  have hanswered : holds [("a", .int32 2)] halfSound = .ok false := by cbv
  rintro ⟨h, -⟩
  obtain ⟨e, he⟩ := h ⟨_, hrejected⟩
  rw [hanswered] at he
  cases he

/-- The rejection asks for the first key. -/
example : holds [("a", .int32 1)] (rejection halfSound) = .ok true := by cbv
example : holds [("a", .int32 2)] (rejection halfSound) = .ok false := by cbv
example : faults halfSound = [.queryOperator "$in"] := by cbv

end Example

end Query

end Dossier
