/-
# Filters on default keys

A field that declares no key of its own is stored under its name in camel case, and a filter can
only ask for a field by a path.  An identifier of ASCII letters, digits and underscores makes such a
path, even where the key spells a word of the filter language: in `not pr` the word is a field,
because no comparison comes after it.

A raw identifier keeps its mark in the name of the field, and so the key has a `#`, which is in no
path.  No filter can ask for the field: the fields of whatever is read from a filter are paths
(`Filter.isPath_of_parseFilter`).

Main statement: `Identifier.parseFilter_key_iff`.
-/
import Dossier.Converter.Basic
import Dossier.Proofs.Filter.Writing
import Dossier.Proofs.Query.Meaning
import Dossier.Proofs.Record.CamelCase

namespace Dossier

namespace Identifier

/-- What an identifier begins with. -/
def starts (c : Char) : Bool := c.isAlpha || c == '_'

def inside (c : Char) : Bool := c.isAlphanum || c == '_'

/-- Whether the identifier consists of ASCII letters, digits and underscores, without a digit at the
start. -/
def isAscii (i : Identifier) : Bool :=
  match i.letters.toList with
  | [] => false
  | c :: cs => starts c && cs.all inside

/-- The field that the identifier declares, without a key of its own. -/
def field (i : Identifier) (type : FieldType) (identity : Bool) : FieldSpec :=
  { name := i.fieldName, type, identity }

theorem exists_of_isAscii {i : Identifier} (h : i.isAscii = true) :
    ∃ c cs, i.letters.toList = c :: cs ∧ starts c = true ∧ ∀ d ∈ cs, inside d = true := by
  unfold isAscii at h
  split at h
  · cases h
  · rename_i c cs heq
    rw [Bool.and_eq_true, List.all_eq_true] at h
    exact ⟨c, cs, heq, h⟩

theorem toNat_lt_of_inside {c : Char} (h : inside c = true) : c.toNat < 128 := by
  unfold inside Char.isAlphanum at h
  rw [Bool.or_eq_true, Bool.or_eq_true] at h
  rcases h with (halpha | hdigit) | hunderscore
  · exact Naming.toNat_lt_of_isAlpha halpha
  · have hcode : 48 ≤ c.toNat ∧ c.toNat ≤ 57 := Char.isDigit_iff_toNat.mp hdigit
    omega
  · rw [beq_iff_eq] at hunderscore
    subst hunderscore
    decide

end Identifier

namespace Filter

theorem inPath_of_inside {c : Char} (h : Identifier.inside c = true) : inPath c = true := by
  unfold Identifier.inside at h
  rw [inPath, h, Bool.true_or, Bool.true_or]

theorem inPath_of_recased {c d : Char} (h : Naming.Recased c d) (hc : inPath c = true) :
    inPath d = true := by
  rcases h with rfl | ⟨-, hd⟩
  · exact hc
  · exact inPath_of_isAlpha hd

/-! ## 1. Keys that are paths -/

/-- **The camel case of an identifier is a path.** -/
theorem isPath_camelCase {i : Identifier} (h : i.isAscii = true) :
    isPath (camelCase i.letters) = true := by
  obtain ⟨c, cs, hletters, hc, hcs⟩ := Identifier.exists_of_isAscii h
  have hascii : Naming.InAscii cs := fun d hd => Identifier.toNat_lt_of_inside (hcs d hd)
  unfold isPath
  rw [toList_camelCase, hletters]
  by_cases hunderscore : c = '_'
  · subst hunderscore
    rw [Naming.camel_underscore]
    refine Bool.and_eq_true_iff.mpr ⟨rfl, List.all_eq_true.mpr fun d hd => ?_⟩
    obtain ⟨e, he, hrecased⟩ := Naming.mem_camel hascii hd
    exact inPath_of_recased hrecased (inPath_of_inside (hcs e he))
  · have halpha : c.isAlpha = true := by simpa [Identifier.starts, hunderscore] using hc
    have hlt := Naming.toNat_lt_of_isAlpha halpha
    rw [Naming.camel_letter hlt hunderscore]
    refine Bool.and_eq_true_iff.mpr ⟨?_, List.all_eq_true.mpr fun d hd => ?_⟩
    · rw [startsPath, (Naming.recased_toLower hlt).isAlpha halpha]
      rfl
    · obtain ⟨e, he, -, hrecased⟩ := Naming.mem_joinWords hascii hd
      exact inPath_of_recased hrecased (inPath_of_inside (hcs e he))

/-! ## 2. Fields that a filter asks for -/

theorem Path.isPath {s rest : List Char} {path : String} (h : Path s path rest) :
    Dossier.isPath path = true := by
  obtain ⟨c, cs, hc, hcs, rfl, -⟩ := h
  unfold Dossier.isPath
  rw [String.toList_ofList]
  exact Bool.and_eq_true_iff.mpr ⟨hc, List.all_eq_true.mpr hcs⟩

/-- Whatever is derived, its fields are paths. -/
theorem Derives.isPath {category : Category} {s rest : List Char} {c : Condition}
    (h : Derives Plain category s c rest) :
    ∀ leaf ∈ c.comparisons, Dossier.isPath leaf.field = true := by
  induction h with
  | comparison h =>
    cases h.1 with
    | present hpath => exact List.forall_mem_singleton.mpr hpath.isPath
    | operand hpath => exact List.forall_mem_singleton.mpr hpath.isPath
  | negation _ _ _ ih => exact ih
  | group _ _ _ ih => exact ih
  | single _ _ ih => exact ih
  | joined connective _ _ _ _ _ ih ih' => exact List.forall_mem_append.mpr ⟨ih, ih'⟩
  | expression _ _ _ ih => exact ih

/-- **A filter asks for paths only.** -/
theorem isPath_of_parseFilter {filter : String} {c : Condition} (h : parseFilter filter = .ok c) :
    ∀ leaf ∈ c.comparisons, Dossier.isPath leaf.field = true :=
  (parseFilter_eq_ok_iff.mp h).isPath

/-- It can be asked whether a field is there exactly if the field is a path. -/
theorem parseFilter_presence_iff {key : String} :
    parseFilter (key ++ " pr") = .ok (.present key) ↔ isPath key = true := by
  constructor
  · intro hread
    exact isPath_of_parseFilter hread ⟨key, .pr, .null⟩ (List.mem_singleton.mpr rfl)
  · intro hpath
    rw [parseFilter_eq_ok_iff, String.toList_append]
    exact .expression (blanks_refl _) (Derives.comparison (plain_present hpath (.inl rfl))).chain
      (blanks_refl _)

end Filter

/-! ## 3. Default keys -/

namespace Identifier

theorem declaredKey_field (i : Identifier) (type : FieldType) (identity : Bool) :
    (i.field type identity).declaredKey = camelCase i.fieldName := rfl

/-- The mark of a raw identifier is in its key. -/
theorem hash_mem_camelCase {i : Identifier} (h : i.raw = true) :
    '#' ∈ (camelCase i.fieldName).toList := by
  rw [toList_camelCase, fieldName, if_pos h, String.toList_append]
  exact List.mem_cons_of_mem _ List.mem_cons_self

/-- No raw identifier makes a path. -/
theorem isPath_camelCase_iff {i : Identifier} (h : i.isAscii = true) :
    isPath (camelCase i.fieldName) = true ↔ i.raw = false := by
  cases hraw : i.raw with
  | true =>
    refine iff_of_false (fun hpath => ?_) (by decide)
    exact absurd (Filter.inPath_of_isPath hpath '#' (hash_mem_camelCase hraw)) (by decide)
  | false =>
    have hname : i.fieldName = i.letters := if_neg (by rw [hraw]; decide)
    rw [hname]
    exact iff_of_true (Filter.isPath_camelCase h) rfl

/-- **A default key can be filtered on, unless the identifier is raw.**  Then no filter asks for the
field at all. -/
theorem parseFilter_key_iff (i : Identifier) (h : i.isAscii = true) (type : FieldType)
    (identity : Bool) :
    (parseFilter ((i.field type identity).declaredKey ++ " pr") =
        .ok (.present (i.field type identity).declaredKey) ↔ i.raw = false) ∧
    (i.raw = true → ∀ filter c, parseFilter filter = .ok c →
      ∀ leaf ∈ c.comparisons, leaf.field ≠ (i.field type identity).declaredKey) := by
  rw [declaredKey_field, Filter.parseFilter_presence_iff, isPath_camelCase_iff h]
  refine ⟨Iff.rfl, fun hraw filter c hread leaf hleaf hkey => ?_⟩
  have hpath := Filter.isPath_of_parseFilter hread leaf hleaf
  rw [hkey, isPath_camelCase_iff h, hraw] at hpath
  cases hpath

namespace Example

/-- An identifier whose camel case is the word `not`. -/
def negated : Identifier := { letters := "Not__" }

/-- A raw identifier. -/
def kind : Identifier := { letters := "type", raw := true }

theorem parseFilter_key_negated :
    negated.isAscii = true ∧ (negated.field .bool false).declaredKey = "not" ∧
    parseFilter "not pr" = .ok (.present "not") ∧
    kind.isAscii = true ∧ (kind.field .string true).declaredKey = "r#type" ∧
    ∀ filter c, parseFilter filter = .ok c → ∀ leaf ∈ c.comparisons, leaf.field ≠ "r#type" := by
  have hnegated : negated.isAscii = true := by decide
  have hkind : kind.isAscii = true := by decide
  have hnot : (negated.field .bool false).declaredKey = "not" := by decide
  have htype : (kind.field .string true).declaredKey = "r#type" := by decide
  obtain ⟨hread, -⟩ := parseFilter_key_iff negated hnegated .bool false
  obtain ⟨-, hnone⟩ := parseFilter_key_iff kind hkind .string true
  rw [hnot] at hread
  rw [htype] at hnone
  exact ⟨hnegated, hnot, hread.mpr rfl, hkind, htype, hnone rfl⟩

theorem kind_not_filtered :
    kind.isAscii = true ∧ (kind.field .string false).declaredKey = "r#type" ∧
    parseFilter ((kind.field .string false).declaredKey ++ " pr") =
      .error (.stoppedAt "r#type pr" 1 none) := by
  refine ⟨by decide, by decide, ?_⟩
  decide +kernel

end Example

end Identifier

end Dossier
