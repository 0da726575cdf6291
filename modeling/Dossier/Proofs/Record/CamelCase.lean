/-
# Names in camel case

Camel case keeps the underscores at the start of a name.  Behind them it puts no other underscore,
and what it puts there is small at its first letter.  So a name in camel case is its own camel case
(`Naming.camel_camel`).

A converter takes a field's name and its name in camel case for one another where it looks up
mappings and the identity.  A field that is declared in camel case has only one name, and this is
its key if nothing else settles the key.

Main statement: `FieldSpec.camelCase_projection`.
-/
import Dossier.Proofs.Converter.Parts

namespace Dossier

namespace Naming

/-- The characters are ASCII. -/
def InAscii (s : List Char) : Prop := ∀ c ∈ s, c.toNat < 128

instance (s : List Char) : Decidable (InAscii s) :=
  decidable_of_iff (s.all (fun c => decide (c.toNat < 128)) = true)
    (by simp only [List.all_eq_true, decide_eq_true_eq, InAscii])

theorem inAscii_cons {c : Char} {s : List Char} :
    InAscii (c :: s) ↔ c.toNat < 128 ∧ InAscii s := List.forall_mem_cons

/-! ## 1. Characters in another case -/

/-- The second character is the first one, or both are letters. -/
def Recased (c d : Char) : Prop := d = c ∨ (c.isAlpha = true ∧ d.isAlpha = true)

instance (c d : Char) : Decidable (Recased c d) :=
  inferInstanceAs (Decidable (d = c ∨ (c.isAlpha = true ∧ d.isAlpha = true)))

/-- The case of an ASCII character, found by looking at all of them. -/
theorem casing_of_ascii {c : Char} (hc : c.toNat < 128) :
    Recased c c.toUpper ∧ Recased c c.toLower ∧ c.toLower.toLower = c.toLower := by
  have hall : ∀ n < 128, Recased (Char.ofNat n) (Char.ofNat n).toUpper ∧
      Recased (Char.ofNat n) (Char.ofNat n).toLower ∧
      (Char.ofNat n).toLower.toLower = (Char.ofNat n).toLower := by
    decide +kernel
  have hof := hall c.toNat hc
  rwa [Char.ofNat_toNat] at hof

theorem recased_toUpper {c : Char} (hc : c.toNat < 128) : Recased c c.toUpper :=
  (casing_of_ascii hc).1

theorem recased_toLower {c : Char} (hc : c.toNat < 128) : Recased c c.toLower :=
  (casing_of_ascii hc).2.1

theorem toLower_toLower {c : Char} (hc : c.toNat < 128) : c.toLower.toLower = c.toLower :=
  (casing_of_ascii hc).2.2

theorem Recased.isAlpha {c d : Char} (h : Recased c d) (hc : c.isAlpha = true) :
    d.isAlpha = true := by
  rcases h with rfl | ⟨-, hd⟩
  · exact hc
  · exact hd

theorem Recased.ne_underscore {c d : Char} (h : Recased c d) (hc : c ≠ '_') : d ≠ '_' := by
  rcases h with rfl | ⟨-, hd⟩
  · exact hc
  · rintro rfl
    exact absurd hd (by decide)

theorem toNat_lt_of_isAlpha {c : Char} (h : c.isAlpha = true) : c.toNat < 128 := by
  rw [isAlpha_iff] at h
  omega

theorem Recased.toNat_lt {c d : Char} (h : Recased c d) (hc : c.toNat < 128) : d.toNat < 128 := by
  rcases h with rfl | ⟨-, hd⟩
  · exact hc
  · exact toNat_lt_of_isAlpha hd

/-! ## 2. Words and underscores -/

/-- What joining puts down are the characters that it takes up, letters perhaps in another case, but
no underscores. -/
theorem mem_joinWords {s : List Char} (hs : InAscii s) {raised : Bool} {d : Char}
    (hd : d ∈ joinWords raised s) : ∃ c ∈ s, c ≠ '_' ∧ Recased c d := by
  induction s generalizing raised with
  | nil => cases hd
  | cons c rest ih =>
    obtain ⟨hc, hrest⟩ := inAscii_cons.mp hs
    have htail {raised : Bool} (hd : d ∈ joinWords raised rest) :
        ∃ e ∈ c :: rest, e ≠ '_' ∧ Recased e d := by
      obtain ⟨e, he, h⟩ := ih hrest hd
      exact ⟨e, List.mem_cons_of_mem c he, h⟩
    unfold joinWords at hd
    split at hd
    · exact htail hd
    · rename_i hne
      rcases List.mem_append.mp hd with hd | hd
      · refine ⟨c, List.mem_cons_self, hne, ?_⟩
        cases raised with
        | true =>
          rw [if_pos rfl, upperCase_of_ascii hc, List.mem_singleton] at hd
          exact hd ▸ recased_toUpper hc
        | false =>
          rw [if_neg Bool.false_ne_true, List.mem_singleton] at hd
          exact .inl hd
      · exact htail hd

theorem underscore_not_mem_joinWords {s : List Char} (hs : InAscii s) (raised : Bool) :
    '_' ∉ joinWords raised s := by
  intro h
  obtain ⟨c, -, hne, hc⟩ := mem_joinWords hs h
  exact hc.ne_underscore hne rfl

/-- Where there are no underscores, nothing drops out and nothing is raised. -/
theorem joinWords_eq_self {s : List Char} (h : '_' ∉ s) : joinWords false s = s := by
  induction s with
  | nil => rfl
  | cons c rest ih =>
    rw [List.mem_cons, not_or] at h
    obtain ⟨hc, hrest⟩ := h
    rw [joinWords, if_neg (Ne.symm hc), if_neg Bool.false_ne_true, ih hrest, List.singleton_append]

/-! ## 3. Camel case -/

theorem camel_letter {c : Char} (hc : c.toNat < 128) (hne : c ≠ '_') (rest : List Char) :
    camel (c :: rest) = c.toLower :: joinWords false rest := by
  rw [camel_cons hne, lowerCase_of_ascii hc, List.singleton_append]

/-- **The underscores at the start stay, and there are no others.** -/
theorem exists_camel_eq {s : List Char} (hs : InAscii s) :
    ∃ rest, camel s = s.takeWhile (· == '_') ++ rest ∧ '_' ∉ rest := by
  induction s with
  | nil => exact ⟨[], rfl, List.not_mem_nil⟩
  | cons c rest ih =>
    obtain ⟨hc, hrest⟩ := inAscii_cons.mp hs
    by_cases h : c = '_'
    · subst h
      obtain ⟨words, hwords, hnone⟩ := ih hrest
      exact ⟨words, by rw [camel_underscore, hwords]; rfl, hnone⟩
    · refine ⟨_, by rw [List.takeWhile_cons_of_neg (by simpa using h), List.nil_append], ?_⟩
      rw [camel_letter hc h, List.mem_cons, not_or]
      exact ⟨((recased_toLower hc).ne_underscore h).symm, underscore_not_mem_joinWords hrest false⟩

/-- All characters of a name in camel case are characters of the name, letters perhaps in another
case. -/
theorem mem_camel {s : List Char} (hs : InAscii s) {d : Char} (hd : d ∈ camel s) :
    ∃ c ∈ s, Recased c d := by
  induction s with
  | nil => cases hd
  | cons c rest ih =>
    obtain ⟨hc, hrest⟩ := inAscii_cons.mp hs
    by_cases h : c = '_'
    · subst h
      rcases List.mem_cons.mp hd with rfl | hd
      · exact ⟨_, List.mem_cons_self, .inl rfl⟩
      · obtain ⟨e, he, hrecased⟩ := ih hrest hd
        exact ⟨e, List.mem_cons_of_mem _ he, hrecased⟩
    · rw [camel_letter hc h] at hd
      rcases List.mem_cons.mp hd with rfl | hd
      · exact ⟨c, List.mem_cons_self, recased_toLower hc⟩
      · obtain ⟨e, he, -, hrecased⟩ := mem_joinWords hrest hd
        exact ⟨e, List.mem_cons_of_mem c he, hrecased⟩

/-- **A name in camel case is its own camel case.** -/
theorem camel_camel {s : List Char} (hs : InAscii s) : camel (camel s) = camel s := by
  induction s with
  | nil => rfl
  | cons c rest ih =>
    obtain ⟨hc, hrest⟩ := inAscii_cons.mp hs
    by_cases h : c = '_'
    · subst h
      rw [camel_underscore, camel_underscore, ih hrest]
    · have hlower := recased_toLower hc
      rw [camel_letter hc h, camel_letter (hlower.toNat_lt hc) (hlower.ne_underscore h),
        toLower_toLower hc,
        joinWords_eq_self (underscore_not_mem_joinWords hrest false)]

end Naming

theorem toList_camelCase (name : String) :
    (camelCase name).toList = Naming.camel name.toList := String.toList_ofList

theorem camelCase_camelCase {name : String} (h : Naming.InAscii name.toList) :
    camelCase (camelCase name) = camelCase name := by
  rw [camelCase, toList_camelCase, Naming.camel_camel h]
  rfl

/-! ## 4. Names that select a field -/

namespace FieldSpec

variable {field : FieldSpec} {given : String}

theorem answersTo_iff :
    field.answersTo given = true ↔ given = field.name ∨ given = camelCase field.name := by
  rw [answersTo, Bool.or_eq_true, beq_iff_eq, beq_iff_eq]

/-- A field that is declared in camel case has only one name. -/
theorem answersTo_iff_of_camelCase (h : camelCase field.name = field.name) :
    field.answersTo given = true ↔ given = field.name := by
  rw [answersTo_iff, h, or_self]

end FieldSpec

namespace Converter

variable {c : Converter} {record : RecordType} {descriptor : RecordDescriptor}
variable {field : FieldSpec} {place : Nat} {given : String}

/-- The first mapping that selects a field gives its key. -/
theorem mapping?_of_first {key : String} {before after : List (String × String)}
    (hmappings : c.mappings = before ++ (given, key) :: after)
    (hbefore : ∀ m ∈ before, ¬ field.answersTo m.1 = true) (hgiven : field.answersTo given = true) :
    c.mapping? field = some key := by
  rw [mapping?]
  refine Option.map_eq_some_iff.mpr ⟨(given, key), List.find?_eq_some_iff_append.mpr ?_, rfl⟩
  exact ⟨hgiven, before, after, hmappings, fun m hm => by simpa using hbefore m hm⟩

theorem mapping?_eq_none (h : ∀ m ∈ c.mappings, ¬ field.answersTo m.1 = true) :
    c.mapping? field = none := by
  rw [mapping?, List.find?_eq_none.mpr h, Option.map_none]

/-- A descriptor has the identity that was found, and each field under the key that the converter
gives to it. -/
theorem exists_identityPlace_of_describe (h : c.describe record = .ok descriptor) :
    ∃ identity, c.identityPlace record = .ok identity ∧ descriptor.identity = some identity ∧
      ∀ (place : Nat) (field : FieldSpec), record.fields[place]? = some field →
        descriptor.fields[place]? = some (field.storedAs (c.keyOf field (place == identity))) := by
  unfold describe at h
  split at h
  · cases h
  · obtain ⟨identity, hidentity, hcheck⟩ := bind_eq_ok_iff.mp h
    obtain ⟨rfl, -⟩ := distinctKeys_of_checkKeys hcheck
    refine ⟨identity, hidentity, rfl, fun place field hfield => ?_⟩
    rw [List.getElem?_mapIdx, hfield, Option.map_some]

/-- Where no field is mapped to the identity key, the identity is the first field that the name of
the identity selects. -/
theorem identityPlace_of_first
    (hmapped : ∀ other ∈ record.fields, c.mapping? other ≠ some c.identityKey)
    (hname : c.identityField = some given) (hfield : record.fields[place]? = some field)
    (hgiven : field.answersTo given = true)
    (hbefore : ∀ other ∈ record.fields.take place, ¬ other.answersTo given = true) :
    c.identityPlace record = .ok place := by
  have hnone : (record.fields.findIdx? fun other => c.mapping? other == some c.identityKey) =
      none := by
    simpa [List.findIdx?_eq_none_iff] using hmapped
  have hfirst : (record.fields.findIdx? fun other => other.answersTo given) = some place := by
    obtain ⟨hlt, rfl⟩ := List.getElem?_eq_some_iff.mp hfield
    refine List.findIdx?_eq_some_iff_getElem.mpr ⟨hlt, hgiven, fun j hj => ?_⟩
    exact hbefore _ (List.mem_take_iff_getElem.mpr ⟨j, by omega, rfl⟩)
  simp only [identityPlace, hnone, hname, hfirst]

end Converter

namespace FieldSpec

/-- The text means the field wherever a converter is told of a field by name.  The first mapping
that means the field settles its key, and the first field that is meant as the identity is the
identity. -/
structure SelectedBy (field : FieldSpec) (given : String) : Prop where
  mapping : ∀ (c : Converter) (key : String) (before after : List (String × String)),
    c.mappings = before ++ (given, key) :: after →
    (∀ m ∈ before, ¬ field.answersTo m.1 = true) →
    c.mapping? field = some key ∧
    ∀ (record : RecordType) (descriptor : RecordDescriptor) (place : Nat),
      record.fields[place]? = some field → c.describe record = .ok descriptor →
      descriptor.fields[place]? = some (field.storedAs key)
  identity : ∀ (c : Converter) (record : RecordType) (descriptor : RecordDescriptor) (place : Nat),
    c.identityField = some given →
    (∀ other ∈ record.fields, c.mapping? other ≠ some c.identityKey) →
    record.fields[place]? = some field →
    (∀ other ∈ record.fields.take place, ¬ other.answersTo given = true) →
    c.describe record = .ok descriptor → descriptor.identity = some place

/-- The field is stored under its name, in nested records and, if it is not the identity and no
mapping has its name, in top-level ones. -/
structure KeepsName (field : FieldSpec) : Prop where
  nested : ∀ (record : RecordType) (descriptor : RecordDescriptor) (place : Nat),
    record.fields[place]? = some field → describeNested record = .ok descriptor →
    descriptor.fields[place]? = some (field.storedAs field.name)
  top : ∀ (c : Converter) (record : RecordType) (descriptor : RecordDescriptor) (place : Nat),
    (∀ m ∈ c.mappings, m.1 ≠ field.name) → record.fields[place]? = some field →
    c.describe record = .ok descriptor → descriptor.identity ≠ some place →
    descriptor.fields[place]? = some (field.storedAs field.name)

theorem selectedBy_of_answersTo {field : FieldSpec} {given : String}
    (hgiven : field.answersTo given = true) : field.SelectedBy given where
  mapping c key before after hmappings hbefore := by
    have hkey := Converter.mapping?_of_first hmappings hbefore hgiven
    refine ⟨hkey, fun record descriptor place hfield hdescribe => ?_⟩
    obtain ⟨identity, -, -, hfields⟩ := Converter.exists_identityPlace_of_describe hdescribe
    rw [hfields place field hfield, Converter.keyOf, hkey]
  identity c record descriptor place hname hmapped hfield hbefore hdescribe := by
    obtain ⟨identity, hidentity, hplace, -⟩ := Converter.exists_identityPlace_of_describe hdescribe
    have hfirst := Converter.identityPlace_of_first hmapped hname hfield hgiven hbefore
    rw [hplace, Except.ok.inj (hidentity.symm.trans hfirst)]

theorem keepsName_of_camelCase {field : FieldSpec} (hname : camelCase field.name = field.name)
    (hrename : field.rename = none) : field.KeepsName where
  nested record descriptor place hfield hdescribe := by
    obtain ⟨rfl, -⟩ := distinctKeys_of_checkKeys hdescribe
    rw [List.getElem?_map, hfield, Option.map_some, declaredKey, hrename, Option.getD_none, hname]
  top c record descriptor place hmappings hfield hdescribe hplace := by
    obtain ⟨identity, -, hidentity, hfields⟩ := Converter.exists_identityPlace_of_describe hdescribe
    have hnone : c.mapping? field = none := Converter.mapping?_eq_none fun m hm hmeant =>
      hmappings m hm ((answersTo_iff_of_camelCase hname).mp hmeant)
    have hother : (place == identity) = false := by
      rw [beq_eq_false_iff_ne]
      rintro rfl
      exact hplace hidentity
    rw [hfields place field hfield, Converter.keyOf, hnone, hother]
    dsimp only
    rw [if_neg Bool.false_ne_true, declaredKey, hrename, Option.getD_none, hname]

/-- **Camel case is a projection.**  It keeps the underscores at the start, has no others, and is
its own camel case.  So a field can be meant by either of its names, and a field that is declared in
camel case is stored under its name. -/
theorem camelCase_projection (name : String) (h : Naming.InAscii name.toList) :
    (∃ rest, (camelCase name).toList = name.toList.takeWhile (· == '_') ++ rest ∧ '_' ∉ rest) ∧
    camelCase (camelCase name) = camelCase name ∧
    (∀ field : FieldSpec, field.name = name →
      field.SelectedBy name ∧ field.SelectedBy (camelCase name)) ∧
    ∀ field : FieldSpec, field.name = camelCase name → field.rename = none → field.KeepsName := by
  refine ⟨?_, camelCase_camelCase h, ?_, ?_⟩
  · rw [toList_camelCase]
    exact Naming.exists_camel_eq h
  · rintro field rfl
    exact ⟨selectedBy_of_answersTo (answersTo_iff.mpr (.inl rfl)),
      selectedBy_of_answersTo (answersTo_iff.mpr (.inr rfl))⟩
  · intro field hname hrename
    exact keepsName_of_camelCase (by rw [hname, camelCase_camelCase h]) hrename

namespace Example

/-- A field with underscores everywhere, among others. -/
def long : FieldSpec := ⟨"__Long__name_", .string, none, false⟩

def file : RecordType :=
  ⟨"File", [⟨"number", .int64, none, false⟩, ⟨"otherName", .string, none, false⟩, long], true⟩

/-- Two mappings for the same field, by its names. -/
def shelved : Converter := { mappings := [("__longName", "shelf"), ("__Long__name_", "box")] }

def shelvedFile : RecordDescriptor :=
  ⟨"File", [⟨"number", .int64, "_id"⟩, ⟨"otherName", .string, "otherName"⟩,
    ⟨"__Long__name_", .string, "shelf"⟩], some 0⟩

theorem camelCase_projection_long :
    camelCase "__Long__name_" = "__longName" ∧ camelCase "__longName" = "__longName" ∧
    shelved.describe file = .ok shelvedFile ∧
    shelvedFile.fields[2]? = some (long.storedAs "shelf") ∧
    shelvedFile.fields[1]? = some ⟨"otherName", .string, "otherName"⟩ := by
  have hlong : camelCase "__Long__name_" = "__longName" := by decide
  have hdescribe : shelved.describe file = .ok shelvedFile := by rfl
  obtain ⟨-, hself, hselected, -⟩ := camelCase_projection "__Long__name_" (by decide)
  obtain ⟨-, -, -, hkeeps⟩ := camelCase_projection "other_name" (by decide)
  rw [hlong] at hself
  have hshelf := ((hselected long rfl).2.mapping shelved "shelf" [] _ (by rw [hlong]; rfl)
    (List.forall_mem_nil _)).2 file shelvedFile 2 rfl hdescribe
  have hother := (hkeeps ⟨"otherName", .string, none, false⟩ (by decide) rfl).top shelved file
    shelvedFile 1 (by decide) rfl hdescribe (by decide)
  exact ⟨hlong, hself, hdescribe, hshelf, hother⟩

end Example

end FieldSpec

end Dossier
