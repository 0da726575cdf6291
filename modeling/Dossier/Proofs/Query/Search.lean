/-
# Looking for a text

The operators `co`, `sw` and `ew` look for a text as it is: no character of it has a meaning of its
own.  Their queries hold of the documents where the value of the field is a string that contains,
begins with or ends with the text, or an array with such a string, and of no others
(`holds_textual`).

They go by way of patterns, and a pattern takes room.  A text of more octets than
`Operator.textLimit` has a pattern that cannot be read, and its query fails on every document.

Main statement: `Condition.holds_textual`.
-/
import Dossier.Proofs.Query.Meaning
import Dossier.Proofs.Regex.Escaping
import Mathlib.Data.String.Basic

namespace Dossier

/-- The text is found in the value: in a string, or in a string of an array. -/
def Operator.FindsIn (op : Operator) (text : String) : Option Bson → Prop
  | some (.string s) => op.Finds text.toList s.toList
  | some (.array items) => ∃ s, .string s ∈ items ∧ op.Finds text.toList s.toList
  | _ => False

theorem length_octets (text : String) :
    (text.toList.flatMap octetsOf).length = text.utf8ByteSize := by
  rw [← String.ofList_toList (s := text), String.utf8ByteSize_ofList, String.toList_ofList]
  induction text.toList with
  | nil => rfl
  | cons c rest ih =>
    rw [List.flatMap_cons, List.length_append, ih, octetsOf, List.length_map,
      String.length_utf8EncodeChar, String.utf8Len_cons, Nat.add_comm]

namespace Query

/-- The query of an operator that looks for a text matches the value of the field. -/
theorem holds_pattern {op : Operator} (hop : op ∈ Operator.textual) {field : String}
    (hkey : isOperatorKey field = false) (value : Literal) (d : Document) :
    holds d [(field, .document (op.query value))] =
      matchesText (Path.resolve (Path.segments field) d) (op.pattern value.toText) "" := by
  rw [holds_single, holdsKey_field d hkey (all_isOperatorKey_query op value)]
  simp only [Operator.textual, List.mem_cons, List.not_mem_nil, or_false] at hop
  rcases hop with rfl | rfl | rfl
  · exact holdsOperators_singleton ..
  · exact holdsOperators_singleton ..
  · exact holdsOperators_singleton ..

/-- A match is looked for in strings. -/
theorem matchesRegex_iff {op : Operator} (hop : op ∈ Operator.textual) (text : String)
    (field : Option Bson) :
    matchesRegex field (op.regex text.toList) = true ↔ op.FindsIn text field := by
  have hmatch (s : String) := Regex.isMatch_regex hop text.toList s.toList
  cases field with
  | none => exact iff_of_false Bool.false_ne_true id
  | some value =>
    cases value with
    | string s => exact hmatch s
    | array items =>
      rw [matchesRegex, List.any_eq_true]
      constructor
      · rintro ⟨item, hitem, hfound⟩
        cases item with
        | string s => exact ⟨s, hitem, (hmatch s).mp hfound⟩
        | _ => cases hfound
      · rintro ⟨s, hs, hfinds⟩
        exact ⟨.string s, hs, (hmatch s).mpr hfinds⟩
    | _ => exact iff_of_false Bool.false_ne_true id

/-- Whether a text is found, if its pattern finds room. -/
theorem matchesText_pattern {op : Operator} (hop : op ∈ Operator.textual) {text : String}
    (field : Option Bson) :
    matchesText field (op.pattern text) "" =
      if text.utf8ByteSize ≤ op.textLimit then .ok (matchesRegex field (op.regex text.toList))
      else .error (.invalidPattern (op.pattern text)) := by
  have hi : "".toList.contains 'i' = false := rfl
  have hm : "".toList.contains 'm' = false := rfl
  have hfits := Regex.fits_regex_iff hop text.toList
  rw [length_octets] at hfits
  unfold matchesText
  rw [hi, hm, Regex.parse?_pattern hop]
  by_cases hroom : text.utf8ByteSize ≤ op.textLimit
  · rw [if_pos (hfits.mpr hroom), if_pos hroom]
  · rw [if_neg (fun h => hroom (hfits.mp h)), if_neg hroom]

end Query

namespace Condition

variable {op : Operator} {field : String}

theorem compile_operand (hname : field ≠ "") (value : Literal) :
    (operand field op value).compile = .ok [(field, .document (op.query value))] :=
  if_neg hname

/-- **A text is looked for as it is.**  Up to a length that depends on the operator, the query gives
no error, and holds of the documents where the text is found in the value of the field.  Beyond it,
the query fails on all documents. -/
theorem holds_textual (hop : op ∈ Operator.textual) (hname : field ≠ "")
    (hkey : isOperatorKey field = false) (value : Literal) :
    ∃ q, (operand field op value).compile = .ok q ∧
      (value.toText.utf8ByteSize ≤ op.textLimit → ∀ d, ∃ held, Query.holds d q = .ok held ∧
        (held = true ↔ op.FindsIn value.toText (Path.resolve (Path.segments field) d))) ∧
      (op.textLimit < value.toText.utf8ByteSize → ∀ d,
        Query.holds d q = .error (.invalidPattern (op.pattern value.toText))) := by
  refine ⟨_, compile_operand hname value, fun hsize d => ?_, fun hsize d => ?_⟩
  · rw [Query.holds_pattern hop hkey, Query.matchesText_pattern hop, if_pos hsize]
    exact ⟨_, rfl, Query.matchesRegex_iff hop value.toText _⟩
  · rw [Query.holds_pattern hop hkey, Query.matchesText_pattern hop, if_neg (Nat.not_le.mpr hsize)]

namespace Example

/-- Characters with a meaning of their own in patterns, an end of line, a character of two octets
and a quote. -/
def marks : Literal := .string ".*$\n^é'"

/-- The text is found at the end of a string in an array, and not before another end of line. -/
theorem holds_marks : ∃ q, (operand "a" .ew marks).compile = .ok q ∧
    Query.holds [("a", .array [.int32 1, .string "x.*$\n^é'"])] q = .ok true ∧
    Query.holds [("a", .string ".*$\n^é'\n")] q = .ok false := by
  obtain ⟨q, hq, hholds, -⟩ := @holds_textual .ew "a" (by decide) (by decide) (by decide) marks
  obtain ⟨found, hfound, hiff⟩ := hholds (by decide +kernel)
    [("a", .array [.int32 1, .string "x.*$\n^é'"])]
  obtain ⟨missed, hmissed, hiff'⟩ := hholds (by decide +kernel) [("a", .string ".*$\n^é'\n")]
  have htrue : found = true :=
    hiff.mpr ⟨"x.*$\n^é'", List.mem_cons_of_mem _ List.mem_cons_self, by
      show marks.toText.toList <:+ _
      decide⟩
  have hfalse : ¬ missed = true := fun h => by
    have hsuffix : marks.toText.toList <:+ ".*$\n^é'\n".toList := hiff'.mp h
    revert hsuffix
    decide
  exact ⟨q, hq, htrue ▸ hfound, Bool.eq_false_iff.mpr hfalse ▸ hmissed⟩

theorem utf8ByteSize_replicate (n : Nat) :
    (String.ofList (List.replicate n 'a')).utf8ByteSize = n := by
  have hoctets : (octetsOf 'a').length = 1 := by decide
  rw [← length_octets, String.toList_ofList, List.length_flatMap, List.map_replicate, hoctets,
    List.sum_replicate_nat, Nat.mul_one]

/-- A text that finds no room. -/
def long : Literal := .string (String.ofList (List.replicate 330000 'a'))

/-- **A text can be too long to be looked for**, also in a document without the field. -/
theorem holds_long : ∃ q, (operand "a" .co long).compile = .ok q ∧
    ∀ d, Query.holds d q = .error (.invalidPattern (Operator.co.pattern long.toText)) := by
  have hop : Operator.co ∈ Operator.textual := by decide
  have hsize : long.toText.utf8ByteSize = 330000 := utf8ByteSize_replicate 330000
  have hroom : ¬ long.toText.utf8ByteSize ≤ Operator.co.textLimit := by
    rw [hsize]
    decide
  refine ⟨_, compile_operand (by decide) long, fun d => ?_⟩
  rw [Query.holds_pattern hop (by decide), Query.matchesText_pattern hop, if_neg hroom]

end Example

end Condition

end Dossier
