/-
# Conditions that travel as JSON

`Condition.toJson` writes a condition as tagged JSON, with each part under its name.  The reader
takes this form and others: parts as an array, in another order or with unknown members among them,
and numbers without a point for doubles.

* Reading gives back what was written, to the last bit of a double and the nanosecond of an instant,
  if doubles are finite and years are written without a sign.
* What is read from JSON has finite doubles, because JSON has no other numbers
  (`Condition.isFinite_of_ofJson?`).  So a condition that was read, in whatever form, is kept when
  it is written and read again.

Main statement: `Condition.read_tagged`.
-/
import Dossier.Condition.Tagged
import Dossier.Proofs.Json.Numbers
import Dossier.Proofs.Query.Meaning
import Dossier.Proofs.Time.Text

namespace Dossier

/-! ## 1. Literals -/

namespace Literal

/-- A double is finite. -/
def IsFinite : Literal → Prop
  | .double x => x.IsFinite
  | _ => True

/-- The year of an instant is written as four digits, without a sign. -/
def HasPlainYear : Literal → Prop
  | .instant t => t.HasPlainYear
  | _ => True

instance : DecidablePred IsFinite
  | .double x => inferInstanceAs (Decidable x.IsFinite)
  | .null | .bool _ | .int _ | .string _ | .instant _ => isTrue trivial

instance : DecidablePred HasPlainYear
  | .instant t => inferInstanceAs (Decidable t.HasPlainYear)
  | .null | .bool _ | .int _ | .double _ | .string _ => isTrue trivial

theorem toJson_double {x : Double} (hx : x.IsFinite) :
    (double x).toJson = .object [("double", .double x)] := by
  obtain ⟨hnan, hinfinite⟩ := Double.isFinite_iff.mp hx
  rw [toJson, hnan, hinfinite, Bool.or_false, if_neg Bool.false_ne_true]

theorem numbersInRange_toJson {value : Literal} (h : value.IsFinite) :
    value.toJson.NumbersInRange := by
  cases value with
  | null => trivial
  | bool _ | string _ | instant _ => exact ⟨trivial, trivial⟩
  | int n =>
    have hhigh : n.toInt < UInt64.size :=
      Int.lt_of_le_of_lt (Int64.le_iff_toInt_le.mp n.le_maxValue) (by decide)
    exact ⟨⟨n.minValue_le_toInt, hhigh⟩, trivial⟩
  | double x =>
    have hx : x.IsFinite := h
    rw [toJson_double hx]
    exact ⟨hx, trivial⟩

theorem asName?_tagged_ne {tag name : String} (htag : tag ≠ name) (v : Json) :
    (Json.object [(tag, v)]).asName? ≠ some name := by
  intro h
  cases v with
  | null => exact htag (Option.some.inj h)
  | _ => cases h

theorem ofJson?_int (v : Json) : ofJson? (.object [("int", v)]) =
    (v.asWhole? Int64.minValue.toInt Int64.maxValue.toInt).map (.int ∘ Int64.ofInt) := by
  rw [ofJson?, if_neg (asName?_tagged_ne (by decide) v)]

theorem ofJson?_timestamp (v : Json) : ofJson? (.object [("timestamp", v)]) =
    (v.asString?.bind Instant.parseLoosely?).map .instant := by
  rw [ofJson?, if_neg (asName?_tagged_ne (by decide) v)]

theorem ofJson?_toJson {value : Literal} (hfinite : value.IsFinite) (hyear : value.HasPlainYear) :
    ofJson? value.toJson = some value := by
  cases value with
  | null | bool _ | string _ => rfl
  | int n =>
    have hrange : Int64.minValue.toInt ≤ n.toInt ∧ n.toInt ≤ Int64.maxValue.toInt :=
      ⟨n.minValue_le_toInt, Int64.le_iff_toInt_le.mp n.le_maxValue⟩
    have hwhole : (Json.whole n.toInt).asWhole? Int64.minValue.toInt Int64.maxValue.toInt =
        some n.toInt := if_pos hrange
    rw [toJson, ofJson?_int, hwhole, Option.map_some, Function.comp_apply, Int64.ofInt_toInt]
  | double x =>
    rw [toJson_double hfinite]
    rfl
  | instant t =>
    rw [toJson, ofJson?_timestamp, Json.asString?, Option.bind_some,
      Instant.parseLoosely?_toText hyear, Option.map_some]

/-- JSON has finite numbers only, so a double that is read is finite. -/
theorem isFinite_of_readDouble {j : Json} (hj : j.NumbersInRange) {x : Double}
    (h : readDouble j = some x) : x.IsFinite := by
  cases j with
  | whole n =>
    cases h
    obtain ⟨hlow, hhigh⟩ := hj
    refine Double.isFinite_ofInt ?_
    rw [show Int64.minValue.toInt = -2 ^ 63 from rfl] at hlow
    rw [show ((UInt64.size : ℕ) : ℤ) = 2 ^ 64 from rfl] at hhigh
    omega
  | double y =>
    cases h
    exact hj
  | _ => cases h

theorem isFinite_of_ofJson? {j : Json} (hj : j.NumbersInRange) {value : Literal}
    (h : ofJson? j = some value) : value.IsFinite := by
  unfold ofJson? at h
  split at h
  · cases h
    trivial
  · split at h
    · obtain ⟨b, -, rfl⟩ := Option.map_eq_some_iff.mp h
      trivial
    · obtain ⟨n, -, rfl⟩ := Option.map_eq_some_iff.mp h
      trivial
    · obtain ⟨x, hx, rfl⟩ := Option.map_eq_some_iff.mp h
      obtain ⟨hv, -⟩ := hj
      exact isFinite_of_readDouble hv hx
    · obtain ⟨b, -, rfl⟩ := Option.map_eq_some_iff.mp h
      trivial
    · obtain ⟨b, -, rfl⟩ := Option.map_eq_some_iff.mp h
      trivial
    · cases h

end Literal

theorem Operator.ofJson?_token (op : Operator) : ofJson? (.string op.token) = some op := by
  cases op <;> decide

theorem Connective.ofJson?_token (connective : Connective) :
    ofJson? (.string connective.token) = some connective := by
  cases connective <;> decide

/-! ## 2. Single levels -/

namespace Condition

theorem ofParts?_eq_some_iff {attr op value : Json} {c : Condition} :
    ofParts? attr op value = some c ↔ ∃ field operator literal,
      attr.asString? = some field ∧ Operator.ofJson? op = some operator ∧
      Literal.ofJson? value = some literal ∧ c = .operand field operator literal := by
  simp only [ofParts?, Option.bind_eq_bind, Option.bind_eq_some_iff, Option.some.injEq]
  constructor
  · rintro ⟨field, hfield, operator, hoperator, literal, hliteral, rfl⟩
    exact ⟨field, operator, literal, hfield, hoperator, hliteral, rfl⟩
  · rintro ⟨field, operator, literal, hfield, hoperator, hliteral, rfl⟩
    exact ⟨field, hfield, operator, hoperator, literal, hliteral, rfl⟩

theorem ofJson?_operand_eq_some_iff {members : List (String × Json)} {c : Condition} :
    ofJson? (.object [("operand", .object members)]) = some c ↔ ∃ attr op value,
      Json.member? members "attribute" = some attr ∧
      Json.member? members "operator" = some op ∧
      Json.member? members "value" = some value ∧ ofParts? attr op value = some c := by
  rw [ofJson?]
  simp only [Option.bind_eq_bind, Option.bind_eq_some_iff]
  constructor
  · rintro ⟨attr, hattr, op, hop, value, hvalue, h⟩
    exact ⟨attr, op, value, hattr, hop, hvalue, h⟩
  · rintro ⟨attr, op, value, hattr, hop, hvalue, h⟩
    exact ⟨attr, hattr, op, hop, value, hvalue, h⟩

theorem ofJson?_operand_array (attr op value : Json) :
    ofJson? (.object [("operand", .array [attr, op, value])]) = ofParts? attr op value := by
  rw [ofJson?]

theorem ofJson?_logic_eq_some_iff {members : List (String × Json)} {c : Condition} :
    ofJson? (.object [("logic", .object members)]) = some c ↔ ∃ word l r connective left right,
      Json.member? members "logical" = some word ∧ Connective.ofJson? word = some connective ∧
      Json.member? members "left" = some l ∧ Json.member? members "right" = some r ∧
      ofJson? l = some left ∧ ofJson? r = some right ∧ c = .logic connective left right := by
  rw [ofJson?]
  simp only [Option.bind_eq_bind, Option.bind_eq_some_iff]
  constructor
  · rintro ⟨connective, ⟨word, hword, hconnective⟩, h⟩
    split at h
    · next l r hl hr =>
      simp only [Option.bind_eq_some_iff, Option.some.injEq] at h
      obtain ⟨left, hleft, right, hright, rfl⟩ := h
      exact ⟨word, l, r, connective, left, right, hword, hconnective, hl, hr, hleft, hright, rfl⟩
    · cases h
  · rintro ⟨word, l, r, connective, left, right, hword, hconnective, hl, hr, hleft, hright, rfl⟩
    refine ⟨connective, ⟨word, hword, hconnective⟩, ?_⟩
    split <;> simp_all

theorem ofJson?_logic_array_eq_some_iff {word l r : Json} {c : Condition} :
    ofJson? (.object [("logic", .array [word, l, r])]) = some c ↔ ∃ connective left right,
      Connective.ofJson? word = some connective ∧ ofJson? l = some left ∧
      ofJson? r = some right ∧ c = .logic connective left right := by
  rw [ofJson?]
  simp only [Option.bind_eq_bind, Option.bind_eq_some_iff, Option.some.injEq]
  constructor
  · rintro ⟨connective, hconnective, left, hleft, right, hright, rfl⟩
    exact ⟨connective, left, right, hconnective, hleft, hright, rfl⟩
  · rintro ⟨connective, left, right, hconnective, hleft, hright, rfl⟩
    exact ⟨connective, hconnective, left, hleft, right, hright, rfl⟩

/-! ## 3. All levels -/

/-- All doubles of the condition are finite. -/
def IsFinite (c : Condition) : Prop := ∀ leaf ∈ c.comparisons, leaf.value.IsFinite

/-- The years of all instants of the condition are written as four digits, without a sign. -/
def HasPlainYears (c : Condition) : Prop := ∀ leaf ∈ c.comparisons, leaf.value.HasPlainYear

theorem isFinite_operand {field : String} {operator : Operator} {value : Literal} :
    (operand field operator value).IsFinite ↔ value.IsFinite := List.forall_mem_singleton

theorem isFinite_logic {connective : Connective} {left right : Condition} :
    (logic connective left right).IsFinite ↔ left.IsFinite ∧ right.IsFinite :=
  List.forall_mem_append

theorem hasPlainYears_operand {field : String} {operator : Operator} {value : Literal} :
    (operand field operator value).HasPlainYears ↔ value.HasPlainYear := List.forall_mem_singleton

theorem hasPlainYears_logic {connective : Connective} {left right : Condition} :
    (logic connective left right).HasPlainYears ↔ left.HasPlainYears ∧ right.HasPlainYears :=
  List.forall_mem_append

instance (c : Condition) : Decidable c.IsFinite :=
  inferInstanceAs (Decidable (∀ leaf ∈ c.comparisons, leaf.value.IsFinite))

instance (c : Condition) : Decidable c.HasPlainYears :=
  inferInstanceAs (Decidable (∀ leaf ∈ c.comparisons, leaf.value.HasPlainYear))

theorem numbersInRange_toJson {c : Condition} (h : c.IsFinite) : c.toJson.NumbersInRange := by
  induction c with
  | operand field operator value =>
    exact ⟨⟨trivial, trivial, Literal.numbersInRange_toJson (isFinite_operand.mp h), trivial⟩,
      trivial⟩
  | logic connective left right ihl ihr =>
    obtain ⟨hl, hr⟩ := isFinite_logic.mp h
    exact ⟨⟨trivial, ihl hl, ihr hr, trivial⟩, trivial⟩
  | not inner ih => exact ⟨ih h, trivial⟩
  | group inner ih => exact ⟨ih h, trivial⟩

/-- **What is written is read again.** -/
theorem ofJson?_toJson {c : Condition} (hfinite : c.IsFinite) (hyears : c.HasPlainYears) :
    ofJson? c.toJson = some c := by
  induction c with
  | operand field operator value =>
    refine ofJson?_operand_eq_some_iff.mpr ⟨_, _, _, rfl, rfl, rfl, ofParts?_eq_some_iff.mpr ?_⟩
    exact ⟨field, operator, value, rfl, operator.ofJson?_token,
      Literal.ofJson?_toJson (isFinite_operand.mp hfinite) (hasPlainYears_operand.mp hyears), rfl⟩
  | logic connective left right ihl ihr =>
    obtain ⟨hfl, hfr⟩ := isFinite_logic.mp hfinite
    obtain ⟨hyl, hyr⟩ := hasPlainYears_logic.mp hyears
    exact ofJson?_logic_eq_some_iff.mpr ⟨_, _, _, connective, left, right, rfl,
      connective.ofJson?_token, rfl, rfl, ihl hfl hyl, ihr hfr hyr, rfl⟩
  | not inner ih => rw [toJson, ofJson?_not, ih hfinite hyears, Option.map_some]
  | group inner ih => rw [toJson, ofJson?_grouping, ih hfinite hyears, Option.map_some]

theorem isFinite_of_ofParts? {attr op value : Json} (hvalue : value.NumbersInRange) {c : Condition}
    (h : ofParts? attr op value = some c) : c.IsFinite := by
  obtain ⟨field, operator, literal, -, -, hliteral, rfl⟩ := ofParts?_eq_some_iff.mp h
  exact isFinite_operand.mpr (Literal.isFinite_of_ofJson? hvalue hliteral)

/-- **What is read has finite doubles**, in whatever form it was written. -/
theorem isFinite_of_ofJson? {j : Json} (hj : j.NumbersInRange) {c : Condition}
    (h : ofJson? j = some c) : c.IsFinite := by
  induction j using ofJson?.induct generalizing c with
  | case1 attr op value =>
    obtain ⟨⟨-, -, hvalue, -⟩, -⟩ := hj
    exact isFinite_of_ofParts? hvalue (ofJson?_operand_array attr op value ▸ h)
  | case2 members =>
    obtain ⟨hmembers, -⟩ := hj
    obtain ⟨attr, op, value, -, -, hvalue, h⟩ := ofJson?_operand_eq_some_iff.mp h
    exact isFinite_of_ofParts? (Json.MemberNumbersInRange.member? hmembers hvalue) h
  | case3 word l r ihl ihr =>
    obtain ⟨⟨-, hl, hr, -⟩, -⟩ := hj
    obtain ⟨connective, left, right, -, hleft, hright, rfl⟩ :=
      ofJson?_logic_array_eq_some_iff.mp h
    exact isFinite_logic.mpr ⟨ihl hl hleft, ihr hr hright⟩
  | case4 members ihl ihr =>
    obtain ⟨hmembers, -⟩ := hj
    obtain ⟨_, l, r, connective, left, right, -, -, hl, hr, hleft, hright, rfl⟩ :=
      ofJson?_logic_eq_some_iff.mp h
    exact isFinite_logic.mpr
      ⟨ihl l r hl (Json.MemberNumbersInRange.member? hmembers hl) hleft,
        ihr l r hr (Json.MemberNumbersInRange.member? hmembers hr) hright⟩
  | case5 inner ih =>
    obtain ⟨hinner, -⟩ := hj
    rw [ofJson?_not] at h
    obtain ⟨c, hc, rfl⟩ := Option.map_eq_some_iff.mp h
    exact (ih hinner hc : c.IsFinite)
  | case6 inner ih =>
    obtain ⟨hinner, -⟩ := hj
    rw [ofJson?_grouping] at h
    obtain ⟨c, hc, rfl⟩ := Option.map_eq_some_iff.mp h
    exact (ih hinner hc : c.IsFinite)
  | case7 j hoperand hparts hlogic hsides hnot hgrouping =>
    unfold ofJson? at h
    split at h
    · exact absurd rfl (hoperand _ _ _)
    · exact absurd rfl (hparts _)
    · exact absurd rfl (hlogic _ _ _)
    · exact absurd rfl (hsides _)
    · exact absurd rfl (hnot _)
    · exact absurd rfl (hgrouping _)
    · cases h

namespace Example

/-- Not seen since a moment within a leap second, or a tenth heavy at most and with a home. -/
def traveller : Condition :=
  .logic .or (.group (.not (.operand "seen" .ge
      (.instant ⟨1483228799, 1123456789, by decide, by decide, by decide, by decide⟩))))
    (.logic .and (.operand "weight" .le (.double (Double.ofDecimal false 1 (-1))))
      (.operand "home" .pr .null))

/-- Lighter than a certain weight, and sent after a certain moment. -/
def parcel : Condition :=
  .logic .and (.operand "weight" .lt (.double (Double.ofInt 12)))
    (.operand "sent" .gt
      (.instant ⟨1700000000, 250000000, by decide, by decide, by decide, by decide⟩))

/-- Parts as arrays, a connective with null, a double without a point, members in another order, a
remark, and the time of another place. -/
def label : Json :=
  .object [("logic", .array [.object [("and", .null)],
    .object [("operand", .array [.string "weight", .string "lt",
      .object [("double", .whole 12)]])],
    .object [("operand", .object [("remark", .array [.double (Double.ofDecimal false 5 (-1))]),
      ("value", .object [("timestamp", .string "2023-11-15 00:13:20.25+02:00")]),
      ("operator", .string "gt"), ("attribute", .string "sent")])]])]

/-- The first part of the label, as text. -/
def note : String := "\x7b\"operand\":[\"weight\",\"lt\",\x7b\"double\":12\x7d]\x7d"

theorem ofJson?_weight : ofJson? (.object [("operand", .array [.string "weight", .string "lt",
    .object [("double", .whole 12)]])]) =
      some (.operand "weight" .lt (.double (Double.ofInt 12))) := by
  rw [ofJson?_operand_array]
  exact ofParts?_eq_some_iff.mpr ⟨_, _, _, rfl, by decide, rfl, rfl⟩

theorem ofJson?_label : ofJson? label = some parcel := by
  have hsent : Instant.parseLoosely? "2023-11-15 00:13:20.25+02:00" =
      some ⟨1700000000, 250000000, by decide, by decide, by decide, by decide⟩ := by
    decide +kernel
  refine ofJson?_logic_array_eq_some_iff.mpr ⟨.and, _, _, by decide, ofJson?_weight, ?_, rfl⟩
  refine ofJson?_operand_eq_some_iff.mpr ⟨_, _, _, rfl, rfl, rfl, ofParts?_eq_some_iff.mpr ?_⟩
  exact ⟨_, _, _, rfl, by decide, congrArg (Option.map Literal.instant) hsent, rfl⟩

/-- An object, by its members. -/
theorem readValue_object {fuel : Nat} {s rest : List Char} {members : List (String × Json)}
    (h : Json.readMembers fuel [] ('"' :: s) = some (members, rest)) :
    Json.readValue (fuel + 1) ('\x7b' :: '"' :: s) = some (.object members, rest) := by
  rw [Json.readValue.eq_def]
  show (Json.readMembers fuel [] ('"' :: s)).map _ = _
  rw [h]
  rfl

/-- An array, by its items. -/
theorem readValue_array {fuel : Nat} {s rest : List Char} {items : List Json}
    (h : Json.readItems fuel ('"' :: s) = some (items, rest)) :
    Json.readValue (fuel + 1) ('[' :: '"' :: s) = some (.array items, rest) := by
  rw [Json.readValue.eq_def]
  show (Json.readItems fuel ('"' :: s)).map _ = _
  rw [h]
  rfl

theorem readNumber_twelve (rest : List Char) :
    Json.readNumber ('1' :: '2' :: '\x7d' :: rest) = some (.whole 12, '\x7d' :: rest) := by
  have htake : Json.takeDigits 0 ['1', '2'] = (12, []) := by decide
  have hparts : Json.ofParts false ['1', '2'] [] none = some (.whole 12) := by
    rw [Json.ofParts, htake]
    exact if_pos (by decide)
  show (Json.ofParts false ['1', '2'] [] none).map (·, '\x7d' :: rest) = _
  rw [hparts]
  rfl

theorem readMembers_double (rest : List Char) : Json.readMembers 77 []
    (['"', 'd', 'o', 'u', 'b', 'l', 'e', '"', ':', '1', '2', '\x7d'] ++ rest) =
      some ([("double", .whole 12)], rest) := by
  rw [Json.readMembers.eq_def]
  refine Option.bind_eq_some_iff.mpr ⟨("double", _), rfl, ?_⟩
  exact Option.bind_eq_some_iff.mpr ⟨_, rfl,
    Option.bind_eq_some_iff.mpr ⟨(Json.whole 12, _), readNumber_twelve rest, rfl⟩⟩

theorem readItems_note (rest : List Char) : Json.readItems 81
    (['"', 'w', 'e', 'i', 'g', 'h', 't', '"', ',', '"', 'l', 't', '"', ',', '\x7b'] ++
      (['"', 'd', 'o', 'u', 'b', 'l', 'e', '"', ':', '1', '2', '\x7d'] ++ ']' :: rest)) =
    some ([.string "weight", .string "lt", .object [("double", .whole 12)]], rest) := by
  have hlast : Json.readItems 79 ('\x7b' ::
      (['"', 'd', 'o', 'u', 'b', 'l', 'e', '"', ':', '1', '2', '\x7d'] ++ ']' :: rest)) =
      some ([.object [("double", .whole 12)]], rest) := by
    rw [Json.readItems.eq_def]
    exact Option.bind_eq_some_iff.mpr ⟨(Json.object [("double", .whole 12)], _),
      readValue_object (readMembers_double _), rfl⟩
  rw [Json.readItems.eq_def]
  refine Option.bind_eq_some_iff.mpr ⟨(Json.string "weight", _), rfl,
    Option.bind_eq_some_iff.mpr ⟨([Json.string "lt", _], _), ?_, rfl⟩⟩
  rw [Json.readItems.eq_def]
  exact Option.bind_eq_some_iff.mpr ⟨(Json.string "lt", _), rfl,
    Option.bind_eq_some_iff.mpr ⟨_, hlast, rfl⟩⟩

theorem parse?_note : Json.parse? note = some (.object [("operand",
    .array [.string "weight", .string "lt", .object [("double", .whole 12)]])]) := by
  have htext : note.toList = ['\x7b', '"', 'o', 'p', 'e', 'r', 'a', 'n', 'd', '"', ':', '['] ++
      (['"', 'w', 'e', 'i', 'g', 'h', 't', '"', ',', '"', 'l', 't', '"', ',', '\x7b'] ++
        (['"', 'd', 'o', 'u', 'b', 'l', 'e', '"', ':', '1', '2', '\x7d'] ++ ']' :: ['\x7d'])) := by
    decide +kernel
  have hmember : Json.readMembers 83 [] (['"', 'o', 'p', 'e', 'r', 'a', 'n', 'd', '"', ':', '['] ++
      (['"', 'w', 'e', 'i', 'g', 'h', 't', '"', ',', '"', 'l', 't', '"', ',', '\x7b'] ++
        (['"', 'd', 'o', 'u', 'b', 'l', 'e', '"', ':', '1', '2', '\x7d'] ++ ']' :: ['\x7d']))) =
      some ([("operand",
        .array [.string "weight", .string "lt", .object [("double", .whole 12)]])], []) := by
    rw [Json.readMembers.eq_def]
    refine Option.bind_eq_some_iff.mpr ⟨("operand", _), rfl, ?_⟩
    exact Option.bind_eq_some_iff.mpr ⟨_, rfl, Option.bind_eq_some_iff.mpr ⟨_,
      readValue_array (readItems_note ['\x7d']), rfl⟩⟩
  rw [Json.parse?, htext]
  exact Option.bind_eq_some_iff.mpr ⟨_, readValue_object hmember, rfl⟩
end Example

end Condition

end Dossier
