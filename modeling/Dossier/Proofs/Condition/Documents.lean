/-
# Conditions that travel as documents

`Condition.toDocument` writes a condition as a document, one key for each level.  The reader is
lenient within limits: tokens in any case, integers of either width, keys in any order, no value
where it would be null, and further keys inside the bodies of operands and logics.
`Condition.WrittenAs` says which documents these are, without the reader.

* Reading gives back what was written, if its instants are whole milliseconds outside leap seconds:
  a stored date counts milliseconds.
* It accepts the documents in which some condition is written and no others.  So nothing is read
  from a document with no key or several keys, at whatever level it stands.

Stored dates reach further than instants do, and those beyond are read as the nearest instant.
`Document.DatesInRange` leaves them out.

Main statement: `Condition.read_document`.
-/
import Dossier.Condition.Structured
import Dossier.Proofs.Bson.Sameness
import Dossier.Proofs.Converter.Parts
import Dossier.Proofs.Query.Meaning
import Dossier.Proofs.Time.Floor

namespace Dossier

/-! ## 1. The forms in which a condition is written -/

/-- What stands for a literal in an operand: the literal as it is stored, an integer of the other
width, or nothing for null. -/
inductive Literal.WrittenAs : Literal → Option Bson → Prop
  | stored (value : Literal) : WrittenAs value (some value.toBson)
  | narrow (n : Int32) : WrittenAs (.int n.toInt64) (some (.int32 n))
  | omitted : WrittenAs .null none

/-- The document writes the condition as `Condition.toDocument` does, up to the case of tokens, the
width of integers, the order of keys, a missing null, and further keys in bodies. -/
inductive Condition.WrittenAs : Condition → Document → Prop
  | operand {field : String} {operator : Operator} {value : Literal} {body : Document}
      {token : String} (hfield : body.get? "attribute" = some (.string field))
      (hoperator : body.get? "operator" = some (.string token))
      (htoken : equalIgnoringCase operator.token.toList token.toList = true)
      (hvalue : value.WrittenAs (body.get? "value")) :
      WrittenAs (.operand field operator value) [("operand", .document body)]
  | logic {connective : Connective} {left right : Condition} {body l r : Document}
      {token : String} (hconnective : body.get? "logical" = some (.string token))
      (htoken : equalIgnoringCase connective.token.toList token.toList = true)
      (hleft : body.get? "left" = some (.document l))
      (hright : body.get? "right" = some (.document r))
      (left_written : WrittenAs left l) (right_written : WrittenAs right r) :
      WrittenAs (.logic connective left right) [("logic", .document body)]
  | not {inner : Condition} {d : Document} (h : WrittenAs inner d) :
      WrittenAs (.not inner) [("not", .document d)]
  | group {inner : Condition} {d : Document} (h : WrittenAs inner d) :
      WrittenAs (.group inner) [("group", .document d)]

/-- The levels of a document that is to be a condition: itself, and those of the documents in which
its parts stand. -/
inductive Condition.Level : Document → Document → Prop
  | top (d : Document) : Level d d
  | not {inner level : Document} (h : Level inner level) : Level [("not", .document inner)] level
  | group {inner level : Document} (h : Level inner level) :
      Level [("group", .document inner)] level
  | left {body l level : Document} (hleft : body.get? "left" = some (.document l))
      (h : Level l level) : Level [("logic", .document body)] level
  | right {body r level : Document} (hright : body.get? "right" = some (.document r))
      (h : Level r level) : Level [("logic", .document body)] level

/-- An instant is a whole number of milliseconds, outside leap seconds. -/
def Literal.WholeMillis : Literal → Prop
  | .instant t => t.nanos % 1000000 = 0 ∧ t.nanos < 1000000000
  | _ => True

instance : DecidablePred Literal.WholeMillis
  | .instant t => inferInstanceAs (Decidable (t.nanos % 1000000 = 0 ∧ t.nanos < 1000000000))
  | .null | .bool _ | .int _ | .double _ | .string _ => isTrue trivial

/-- All instants of the condition are whole milliseconds outside leap seconds. -/
def Condition.WholeMillis (c : Condition) : Prop := ∀ leaf ∈ c.comparisons, leaf.value.WholeMillis

instance (c : Condition) : Decidable c.WholeMillis :=
  inferInstanceAs (Decidable (∀ leaf ∈ c.comparisons, leaf.value.WholeMillis))

mutual

/-- All dates in the value lie between the first and the last instant. -/
def Bson.DatesInRange : Bson → Prop
  | .date millis =>
    Instant.first.toMillis ≤ millis.toInt ∧ millis.toInt ≤ Instant.last.toMillis
  | .array items => Bson.ItemDatesInRange items
  | .document fields => Document.DatesInRange fields
  | _ => True

def Bson.ItemDatesInRange : List Bson → Prop
  | [] => True
  | item :: rest => item.DatesInRange ∧ Bson.ItemDatesInRange rest

/-- All dates in the document lie between the first and the last instant. -/
def Document.DatesInRange : List (String × Bson) → Prop
  | [] => True
  | (_, value) :: rest => value.DatesInRange ∧ Document.DatesInRange rest

end

theorem Document.DatesInRange.get? {d : Document} (h : Document.DatesInRange d) {key : String}
    {v : Bson} (hv : d.get? key = some v) : v.DatesInRange := by
  induction d with
  | nil => cases hv
  | cons entry rest ih =>
    obtain ⟨k, w⟩ := entry
    obtain ⟨hw, hrest⟩ := h
    rw [Document.get?_cons] at hv
    split at hv
    · cases hv
      exact hw
    · exact ih hrest hv

/-! ## 2. Single parts -/

theorem equalIgnoringCase_iff {s t : List Char} :
    equalIgnoringCase s t = true ↔ s.map Char.toLower = t.map Char.toLower := by
  unfold equalIgnoringCase
  exact beq_iff_eq

/-- Where tokens differ in more than case, the first one that a text is, is the only one. -/
theorem find?_token_eq_some_iff {α : Type} {all : List α} {token : α → String} {text : String}
    {a : α} (hall : ∀ a, a ∈ all)
    (hinj : ∀ a b, (token a).toList.map Char.toLower = (token b).toList.map Char.toLower → a = b) :
    all.find? (fun b => equalIgnoringCase (token b).toList text.toList) = some a ↔
      equalIgnoringCase (token a).toList text.toList = true := by
  constructor
  · intro h
    exact List.find?_some (p := fun b => equalIgnoringCase (token b).toList text.toList) h
  · intro h
    cases hfound : all.find? fun b => equalIgnoringCase (token b).toList text.toList with
    | none => exact absurd h (List.find?_eq_none.mp hfound a (hall a))
    | some b =>
      have hb : equalIgnoringCase (token b).toList text.toList = true :=
        List.find?_some (p := fun b => equalIgnoringCase (token b).toList text.toList) hfound
      rw [equalIgnoringCase_iff] at h hb
      rw [hinj a b (h.trans hb.symm)]

theorem Operator.parse_eq_ok_iff {token : String} {op : Operator} :
    Operator.parse token = .ok op ↔ equalIgnoringCase op.token.toList token.toList = true := by
  have hfind : Operator.ofToken? token = some op ↔ _ := find?_token_eq_some_iff
    (fun op => by cases op <;> decide) (fun a b => by cases a <;> cases b <;> decide)
  rw [← hfind, Operator.parse]
  cases Operator.ofToken? token with
  | none => exact iff_of_false (by rintro ⟨⟩) (by rintro ⟨⟩)
  | some other => rw [Except.ok.injEq, Option.some.injEq]

theorem Connective.parse_eq_ok_iff {token : String} {connective : Connective} :
    Connective.parse token = .ok connective ↔
      equalIgnoringCase connective.token.toList token.toList = true := by
  have hfind : Connective.ofToken? token = some connective ↔ _ := find?_token_eq_some_iff
    (fun c => by cases c <;> decide) (fun a b => by cases a <;> cases b <;> decide)
  rw [← hfind, Connective.parse]
  cases Connective.ofToken? token with
  | none => exact iff_of_false (by rintro ⟨⟩) (by rintro ⟨⟩)
  | some other => rw [Except.ok.injEq, Option.some.injEq]

theorem Condition.textPart_eq_ok_iff {kind part text : String} {body : Document} :
    textPart kind part body = .ok text ↔ body.get? part = some (.string text) := by
  unfold textPart
  cases body.get? part with
  | none => exact iff_of_false (by rintro ⟨⟩) (by rintro ⟨⟩)
  | some v => cases v <;> simp [Bson.asString?]

/-- The literal in an operand: that of its value, or null without one. -/
def Literal.ofStored : Option Bson → Except CompileError Literal
  | some v => Literal.ofBson v
  | none => .ok .null

/-- What stands for a literal is read as one: as that literal, if a stored date is fine enough for
it. -/
theorem Literal.WrittenAs.exists_read {value : Literal} {stored : Option Bson}
    (h : value.WrittenAs stored) :
    ∃ literal, Literal.ofStored stored = .ok literal ∧ (value.WholeMillis → literal = value) := by
  cases h with
  | stored =>
    cases value with
    | instant t =>
      refine ⟨_, rfl, fun ⟨whole, ordinary⟩ => ?_⟩
      rw [Instant.toInt_ofInt_toMillis, Instant.ofMillis_toMillis whole ordinary]
    | _ => exact ⟨_, rfl, fun _ => rfl⟩
  | narrow n => exact ⟨_, rfl, fun _ => rfl⟩
  | omitted => exact ⟨_, rfl, fun _ => rfl⟩

/-- What a literal is read from stands for it, if it is not a date out of range. -/
theorem Literal.writtenAs_of_read {value : Literal} {stored : Option Bson}
    (hrange : ∀ v ∈ stored, v.DatesInRange) (h : Literal.ofStored stored = .ok value) :
    value.WholeMillis ∧ value.WrittenAs stored := by
  cases stored with
  | none =>
    cases h
    exact ⟨trivial, .omitted⟩
  | some v =>
    cases v with
    | date millis =>
      cases h
      obtain ⟨low, high⟩ := hrange _ rfl
      obtain ⟨-, hnanos⟩ := Instant.ofMillis_seconds low high
      refine ⟨⟨by omega, by omega⟩, ?_⟩
      have hback : (Literal.instant (Instant.ofMillis millis.toInt)).toBson = .date millis := by
        rw [Literal.toBson, Instant.toMillis_ofMillis low high, Int64.ofInt_toInt]
      rw [← hback]
      exact .stored _
    | int32 n =>
      cases h
      exact ⟨trivial, .narrow n⟩
    | null | boolean _ | int64 _ | double _ | string _ =>
      cases h
      exact ⟨trivial, .stored _⟩
    | _ => cases h

/-! ## 3. Single levels -/

namespace Condition

/-- The value is looked at last, whether it is there or not. -/
theorem ofOperandBody_eq (body : Document) :
    ofOperandBody body = (do
      let field ← textPart "operand" "attribute" body
      let operator ← Operator.parse (← textPart "operand" "operator" body)
      let value ← Literal.ofStored (body.get? "value")
      return .operand field operator value) := by
  unfold ofOperandBody
  cases body.get? "value" with
  | none => rfl
  | some v => rfl

theorem ofOperandBody_eq_ok_iff {body : Document} {c : Condition} :
    ofOperandBody body = .ok c ↔ ∃ field token operator value,
      body.get? "attribute" = some (.string field) ∧
      body.get? "operator" = some (.string token) ∧ Operator.parse token = .ok operator ∧
      Literal.ofStored (body.get? "value") = .ok value ∧ c = .operand field operator value := by
  rw [ofOperandBody_eq]
  simp only [bind_eq_ok_iff, pure_eq_ok_iff, textPart_eq_ok_iff]
  constructor
  · rintro ⟨field, hfield, token, htoken, operator, hoperator, value, hvalue, rfl⟩
    exact ⟨field, token, operator, value, hfield, htoken, hoperator, hvalue, rfl⟩
  · rintro ⟨field, token, operator, value, hfield, htoken, hoperator, hvalue, rfl⟩
    exact ⟨field, hfield, token, htoken, operator, hoperator, value, hvalue, rfl⟩

theorem ofDocument_not_eq_ok_iff {d : Document} {c : Condition} :
    ofDocument [("not", .document d)] = .ok c ↔
      ∃ inner, ofDocument d = .ok inner ∧ c = .not inner := by
  rw [ofDocument]
  simp only [bind_eq_ok_iff, pure_eq_ok_iff]

theorem ofDocument_group_eq_ok_iff {d : Document} {c : Condition} :
    ofDocument [("group", .document d)] = .ok c ↔
      ∃ inner, ofDocument d = .ok inner ∧ c = .group inner := by
  rw [ofDocument]
  simp only [bind_eq_ok_iff, pure_eq_ok_iff]

theorem ofDocument_logic_eq_ok_iff {body : Document} {c : Condition} :
    ofDocument [("logic", .document body)] = .ok c ↔ ∃ token connective l r left right,
      body.get? "logical" = some (.string token) ∧ Connective.parse token = .ok connective ∧
      body.get? "left" = some (.document l) ∧ body.get? "right" = some (.document r) ∧
      ofDocument l = .ok left ∧ ofDocument r = .ok right ∧ c = .logic connective left right := by
  rw [ofDocument]
  simp only [bind_eq_ok_iff, textPart_eq_ok_iff]
  constructor
  · rintro ⟨token, htoken, connective, hconnective, h⟩
    split at h
    · cases h
    · cases h
    · rename_i l r hl hr
      simp only [bind_eq_ok_iff, pure_eq_ok_iff] at h
      obtain ⟨left, hleft, right, hright, rfl⟩ := h
      exact ⟨token, connective, l, r, left, right, htoken, hconnective, hl, hr, hleft, hright, rfl⟩
    · -- the right part is not a document, which shows only once the left part is read
      simp only [bind_eq_ok_iff] at h
      obtain ⟨_, _, h⟩ := h
      cases h
    · cases h
  · rintro ⟨token, connective, l, r, left, right, htoken, hconnective, hl, hr, hleft, hright, rfl⟩
    refine ⟨token, htoken, connective, hconnective, ?_⟩
    split <;> simp_all [bind_eq_ok_iff]

/-- Only from a document of one key is a condition read. -/
theorem length_of_ofDocument {d : Document} {c : Condition} (h : ofDocument d = .ok c) :
    d.length = 1 := by
  fun_induction ofDocument d with
  | case10 => cases h
  | _ => rfl

/-! ## 4. All levels -/

theorem wholeMillis_logic {connective : Connective} {left right : Condition} :
    (logic connective left right).WholeMillis ↔ left.WholeMillis ∧ right.WholeMillis :=
  List.forall_mem_append

theorem wholeMillis_operand {field : String} {operator : Operator} {value : Literal} :
    (operand field operator value).WholeMillis ↔ value.WholeMillis := by
  unfold WholeMillis comparisons
  rw [List.forall_mem_singleton]

/-- The document that `toDocument` makes writes the condition. -/
theorem writtenAs_toDocument (c : Condition) : c.WrittenAs c.toDocument := by
  induction c with
  | operand field operator value => exact .operand rfl rfl (beq_self_eq_true _) (.stored value)
  | logic connective left right hleft hright =>
    exact .logic rfl (beq_self_eq_true _) rfl rfl hleft hright
  | not inner h => exact .not h
  | group inner h => exact .group h

/-- What writes a condition is read: as that condition, if stored dates are fine enough for it. -/
theorem WrittenAs.exists_read {c : Condition} {d : Document} (h : c.WrittenAs d) :
    ∃ read, ofDocument d = .ok read ∧ (c.WholeMillis → read = c) := by
  induction h with
  | @operand field operator value body token hfield hoperator htoken hvalue =>
    obtain ⟨literal, hread, hsame⟩ := hvalue.exists_read
    refine ⟨.operand field operator literal, ?_, fun hc => ?_⟩
    · rw [ofDocument_operand, ofOperandBody_eq_ok_iff]
      exact ⟨field, token, operator, literal, hfield, hoperator,
        Operator.parse_eq_ok_iff.mpr htoken, hread, rfl⟩
    · rw [hsame (wholeMillis_operand.mp hc)]
  | @logic connective _ _ body l r token hconnective htoken hleft hright _ _ ihl ihr =>
    obtain ⟨left, hl, hleftSame⟩ := ihl
    obtain ⟨right, hr, hrightSame⟩ := ihr
    refine ⟨.logic connective left right, ?_, fun hc => ?_⟩
    · rw [ofDocument_logic_eq_ok_iff]
      exact ⟨token, connective, l, r, left, right, hconnective,
        Connective.parse_eq_ok_iff.mpr htoken, hleft, hright, hl, hr, rfl⟩
    · obtain ⟨hcl, hcr⟩ := wholeMillis_logic.mp hc
      rw [hleftSame hcl, hrightSame hcr]
  | not _ ih =>
    obtain ⟨inner, hread, hsame⟩ := ih
    refine ⟨.not inner, ofDocument_not_eq_ok_iff.mpr ⟨inner, hread, rfl⟩, fun hc => ?_⟩
    rw [hsame hc]
  | group _ ih =>
    obtain ⟨inner, hread, hsame⟩ := ih
    refine ⟨.group inner, ofDocument_group_eq_ok_iff.mpr ⟨inner, hread, rfl⟩, fun hc => ?_⟩
    rw [hsame hc]

/-- What a condition is read from writes it. -/
theorem writtenAs_of_read {d : Document} {c : Condition} (hd : Document.DatesInRange d)
    (h : ofDocument d = .ok c) : c.WholeMillis ∧ c.WrittenAs d := by
  fun_induction ofDocument d generalizing c with
  | case1 body =>
    obtain ⟨field, token, operator, value, hfield, htoken, hoperator, hvalue, rfl⟩ :=
      ofOperandBody_eq_ok_iff.mp h
    obtain ⟨hwhole, hwritten⟩ := Literal.writtenAs_of_read (fun v hv => hd.1.get? hv) hvalue
    exact ⟨wholeMillis_operand.mpr hwhole,
      .operand hfield htoken (Operator.parse_eq_ok_iff.mp hoperator) hwritten⟩
  | case3 body _ ihr ihl =>
    rw [← ofDocument, ofDocument_logic_eq_ok_iff] at h
    obtain ⟨_, _, l, r, left, right, htoken, hconnective, hl, hr, hleft, hright, rfl⟩ := h
    obtain ⟨hwl, hwrittenl⟩ := ihl l hl (hd.1.get? hl) hleft
    obtain ⟨hwr, hwrittenr⟩ := ihr l r hr (hd.1.get? hr) hright
    exact ⟨wholeMillis_logic.mpr ⟨hwl, hwr⟩,
      .logic htoken (Connective.parse_eq_ok_iff.mp hconnective) hl hr hwrittenl hwrittenr⟩
  | case5 inner ih =>
    simp only [bind_eq_ok_iff, pure_eq_ok_iff] at h
    obtain ⟨read, hread, rfl⟩ := h
    obtain ⟨hwhole, hwritten⟩ := ih hd.1 hread
    exact ⟨hwhole, .not hwritten⟩
  | case7 inner ih =>
    simp only [bind_eq_ok_iff, pure_eq_ok_iff] at h
    obtain ⟨read, hread, rfl⟩ := h
    obtain ⟨hwhole, hwritten⟩ := ih hd.1 hread
    exact ⟨hwhole, .group hwritten⟩
  -- the other documents are refused
  | case2 | case4 | case6 | case8 | case9 | case10 => cases h

/-- From what is read, every level that is reached has one key. -/
theorem Level.length_of_ofDocument {d level : Document} (h : Level d level) {c : Condition}
    (hread : ofDocument d = .ok c) : level.length = 1 := by
  induction h generalizing c with
  | top d => exact Condition.length_of_ofDocument hread
  | not _ ih =>
    obtain ⟨inner, hinner, -⟩ := ofDocument_not_eq_ok_iff.mp hread
    exact ih hinner
  | group _ ih =>
    obtain ⟨inner, hinner, -⟩ := ofDocument_group_eq_ok_iff.mp hread
    exact ih hinner
  | left hleft _ ih =>
    obtain ⟨_, _, l, _, _, _, -, -, hl, -, hread, -⟩ := ofDocument_logic_eq_ok_iff.mp hread
    cases hleft.symm.trans hl
    exact ih hread
  | right hright _ ih =>
    obtain ⟨_, _, _, r, _, _, -, -, -, hr, -, hread, -⟩ := ofDocument_logic_eq_ok_iff.mp hread
    cases hright.symm.trans hr
    exact ih hread

/-- **Reading accepts the documents in which a condition is written, and gives that condition.** -/
theorem read_document :
    (∀ c : Condition, c.WholeMillis → ofDocument c.toDocument = .ok c) ∧
    (∀ d : Document, Document.DatesInRange d →
      (∀ c : Condition, ofDocument d = .ok c ↔ c.WholeMillis ∧ c.WrittenAs d) ∧
      ((∃ e, ofDocument d = .error e) ↔ ∀ c : Condition, ¬ c.WrittenAs d)) ∧
    ∀ d level : Document, Level d level → level.length ≠ 1 → ∃ e, ofDocument d = .error e := by
  -- a condition that stored dates can hold is what is read from any document that writes it
  have hread : ∀ (c : Condition) (d : Document), c.WholeMillis → c.WrittenAs d →
      ofDocument d = .ok c := by
    intro c d hwhole hwritten
    obtain ⟨read, hread, hsame⟩ := hwritten.exists_read
    rw [hread, hsame hwhole]
  refine ⟨?_, ?_, ?_⟩
  · intro c hwhole
    exact hread c c.toDocument hwhole (writtenAs_toDocument c)
  · intro d hd
    constructor
    · intro c
      constructor
      · exact writtenAs_of_read hd
      · rintro ⟨hwhole, hwritten⟩
        exact hread c d hwhole hwritten
    · rw [exists_error_iff]
      constructor
      · intro hnone c hwritten
        obtain ⟨read, hread, -⟩ := hwritten.exists_read
        exact hnone read hread
      · intro hnone c hok
        obtain ⟨-, hwritten⟩ := writtenAs_of_read hd hok
        exact hnone c hwritten
  · intro d level hlevel hcount
    rw [exists_error_iff]
    intro c hok
    exact hcount (hlevel.length_of_ofDocument hok)

namespace Example

/-- Seen since a certain millisecond, in parentheses, and without a city or of a certain age. -/
def condition : Condition :=
  .logic .and (.group (.operand "seen" .ge (.instant (Instant.ofMillis 1700000000123))))
    (.logic .or (.not (.operand "home.city" .pr .null)) (.operand "age" .eq (.int 41)))

/-- Keys in another order, tokens in capitals, a short integer, a value left out, and a remark. -/
def letter : Document :=
  [("logic", .document [
    ("right", .document [("logic", .document [("logical", .string "OR"),
      ("left", .document [("not", .document [("operand", .document
        [("operator", .string "Pr"), ("remark", .document []),
          ("attribute", .string "home.city")])])]),
      ("right", .document [("operand", .document
        [("value", .int32 41), ("attribute", .string "age"), ("operator", .string "eq")])])])]),
    ("left", .document [("group", .document [("operand", .document [("attribute", .string "seen"),
      ("operator", .string "gE"), ("value", .date 1700000000123)])])]),
    ("logical", .string "And")])]

/-- The condition is written in the letter, which is not how `toDocument` writes it. -/
theorem writtenAs_letter : condition.WrittenAs letter :=
  .logic rfl (by decide) rfl rfl
    (.group (.operand rfl rfl (by decide) (.stored _)))
    (.logic rfl (by decide) rfl rfl
      (.not (.operand rfl rfl (by decide) .omitted))
      (.operand rfl rfl (by decide) (.narrow 41)))

/-- An operand with a second key beside it, deep inside. -/
def crowded : Document :=
  [("not", .document [("logic", .document [("left", .document [("group", .document
    [("operand", .document []), ("not", .document [])])])])])]

theorem read_document_letter :
    ofDocument condition.toDocument = .ok condition ∧
    ofDocument letter = .ok condition ∧
    (∃ e, ofDocument crowded = .error e) ∧
    ∀ c : Condition, ¬ c.WrittenAs crowded := by
  obtain ⟨hback, hread, hlevels⟩ := read_document
  have hwhole : condition.WholeMillis := by decide
  have hdate : (Bson.date 1700000000123).DatesInRange := ⟨by decide, by decide⟩
  have hletter : Document.DatesInRange letter := by
    simpa [letter, Document.DatesInRange, Bson.DatesInRange] using hdate
  have hcrowded : Document.DatesInRange crowded := by
    simp [crowded, Document.DatesInRange, Bson.DatesInRange]
  have hfails : ∃ e, ofDocument crowded = .error e :=
    hlevels crowded [("operand", .document []), ("not", .document [])]
      (.not (.left rfl (.group (.top _)))) (by decide)
  exact ⟨hback condition hwhole,
    ((hread letter hletter).1 condition).mpr ⟨hwhole, writtenAs_letter⟩, hfails,
    (hread crowded hcrowded).2.mp hfails⟩

end Example

end Condition

end Dossier
