/-
# A conversion succeeds if those of its parts do

Conversion follows the structure of types and values, and stops at the first part that does not
convert.  So that it succeeds is the same as that each part does, and the result is made of
those of the parts: `encodeItems_eq_ok_iff` and `decodeItems_eq_ok_iff` say so for items,
`encodeEach_eq_ok_iff` and `decodeFields_eq_ok_iff` for fields.  The value of each field stands in
the document under the field's key (`exists_stored`).

If it fails, it does so at the first part that fails by itself (`FirstFails`), and with the error of
that part: `decodeItems_eq_error_iff`, `decodeFields_eq_error_iff`.

Two conversions come to the same if they do for each part (`encodeItems_congr`,
`encodeFields_congr`, `decodeItems_congr`, `decodeFields_congr`).
-/
import Dossier.Proofs.Bson.Sameness
import Dossier.Converter.Decode
import Mathlib.Data.List.Forall2

namespace Dossier

/-! ## 1. Steps that succeed -/

theorem bind_eq_ok_iff {ε α β : Type} {first : Except ε α} {next : α → Except ε β} {b : β} :
    (first >>= next) = .ok b ↔ ∃ a, first = .ok a ∧ next a = .ok b := by
  cases first with
  | error e => simp [bind, Except.bind]
  | ok a => simp [bind, Except.bind]

theorem pure_eq_ok_iff {ε α : Type} {a b : α} : (pure a : Except ε α) = .ok b ↔ b = a := by
  rw [eq_comm]
  exact (Except.ok.injEq b a).to_iff

/-- One part after another, each leaving one item of the result. -/
theorem cons_eq_ok_iff {ε α β : Type} {first : Except ε α} {item : α → β}
    {rest : Except ε (List β)} {all : List β} :
    (do return item (← first) :: (← rest)) = .ok all ↔
      ∃ a others, first = .ok a ∧ rest = .ok others ∧ all = item a :: others := by
  simp only [bind_eq_ok_iff, pure_eq_ok_iff, exists_and_left]

theorem claimedBy_eq_ok_iff {α : Type} {field : String} {result : Except ConversionError α}
    {a : α} : claimedBy field result = .ok a ↔ result = .ok a := by
  cases result with
  | ok b => rfl
  | error e => simp

/-- Two lists are related item by item. -/
theorem forall₂_iff_getElem? {α β : Type} {R : α → β → Prop} {as : List α} {bs : List β} :
    List.Forall₂ R as bs ↔ as.length = bs.length ∧
      ∀ (i : Nat) a b, as[i]? = some a → bs[i]? = some b → R a b := by
  rw [List.forall₂_iff_get]
  refine and_congr_right fun _ => ⟨fun h i a b ha hb => ?_, fun h i ha hb => ?_⟩
  · obtain ⟨hia, rfl⟩ := List.getElem?_eq_some_iff.mp ha
    obtain ⟨hib, rfl⟩ := List.getElem?_eq_some_iff.mp hb
    exact h i hia hib
  · exact h i _ _ (List.getElem?_eq_getElem ha) (List.getElem?_eq_getElem hb)

/-- Each item of one list stands beside something in the other. -/
theorem exists_mem_zip_left {α β : Type} {as : List α} {bs : List β} (h : as.length = bs.length)
    {a : α} (ha : a ∈ as) : ∃ b, (a, b) ∈ as.zip bs := by
  rw [← List.map_fst_zip (Nat.le_of_eq h)] at ha
  obtain ⟨⟨_, b⟩, hmem, rfl⟩ := List.mem_map.mp ha
  exact ⟨b, hmem⟩

/-- And so does each item of the other. -/
theorem exists_mem_zip_right {α β : Type} {as : List α} {bs : List β} (h : as.length = bs.length)
    {b : β} (hb : b ∈ bs) : ∃ a, (a, b) ∈ as.zip bs := by
  rw [← List.map_snd_zip (Nat.le_of_eq h.symm)] at hb
  obtain ⟨⟨a, _⟩, hmem, rfl⟩ := List.mem_map.mp hb
  exact ⟨a, hmem⟩

theorem forall₂_of_zip_left {α β γ : Type} {R : α → γ → Prop} {as : List α} {bs : List β}
    {cs : List γ} (hlength : as.length = bs.length)
    (h : List.Forall₂ (fun (pair : α × β) c => R pair.1 c) (as.zip bs) cs) :
    List.Forall₂ R as cs := by
  rwa [← List.map_fst_zip (Nat.le_of_eq hlength), List.forall₂_map_left_iff]

theorem forall₂_of_zip_right {α β γ : Type} {R : β → γ → Prop} {as : List α} {bs : List β}
    {cs : List γ} (hlength : as.length = bs.length)
    (h : List.Forall₂ (fun (pair : α × β) c => R pair.2 c) (as.zip bs) cs) :
    List.Forall₂ R bs cs := by
  rwa [← List.map_snd_zip (Nat.le_of_eq hlength.symm), List.forall₂_map_left_iff]

/-! ## 2. The first step that fails -/

section

variable {ε α β : Type}

theorem exists_error_iff {result : Except ε α} :
    (∃ e, result = .error e) ↔ ∀ a, result ≠ .ok a := by
  cases result with
  | error e => exact iff_of_true ⟨e, rfl⟩ (fun a h => by cases h)
  | ok a => exact iff_of_false (by rintro ⟨e, h⟩; cases h) (fun h => h a rfl)

/-- One of the items fails with the error, and all before it do not fail. -/
def FirstFails (f : α → Except ε β) (items : List α) (e : ε) : Prop :=
  ∃ before item after, items = before ++ item :: after ∧
    (∀ earlier ∈ before, ∃ b, f earlier = .ok b) ∧ f item = .error e

theorem not_firstFails_nil (f : α → Except ε β) (e : ε) : ¬ FirstFails f [] e := by
  rintro ⟨before, item, after, hitems, -⟩
  exact List.append_ne_nil_of_right_ne_nil before (List.cons_ne_nil item after) hitems.symm

theorem firstFails_cons_iff {f : α → Except ε β} {item : α} {rest : List α} {e : ε} :
    FirstFails f (item :: rest) e ↔ f item = .error e ∨ (∃ b, f item = .ok b) ∧
      FirstFails f rest e := by
  constructor
  · rintro ⟨before, first, after, hitems, hbefore, hfirst⟩
    cases before with
    | nil =>
      cases hitems
      exact .inl hfirst
    | cons head before =>
      cases hitems
      obtain ⟨hhead, hbefore⟩ := List.forall_mem_cons.mp hbefore
      exact .inr ⟨hhead, before, first, after, rfl, hbefore, hfirst⟩
  · rintro (hitem | ⟨hitem, before, first, after, rfl, hbefore, hfirst⟩)
    · exact ⟨[], item, rest, rfl, nofun, hitem⟩
    · exact ⟨item :: before, first, after, rfl, List.forall_mem_cons.mpr ⟨hitem, hbefore⟩, hfirst⟩

theorem cons_eq_error_iff {first : Except ε α} {item : α → β} {rest : Except ε (List β)} {e : ε} :
    (do return item (← first) :: (← rest)) = .error e ↔
      first = .error e ∨ (∃ a, first = .ok a) ∧ rest = .error e := by
  cases first <;> cases rest <;> simp [bind, Except.bind, pure, Except.pure]

theorem bind_eq_error_iff {first : Except ε α} {next : α → Except ε β} {e : ε} :
    (first >>= next) = .error e ↔ first = .error e ∨ ∃ a, first = .ok a ∧ next a = .error e := by
  cases first <;> simp [bind, Except.bind]

/-- A step that only wraps up a result fails if the result does. -/
theorem bind_pure_eq_error_iff {result : Except ε α} {wrap : α → β} {e : ε} :
    (result >>= fun a => pure (wrap a)) = .error e ↔ result = .error e := by
  cases result <;> simp [bind, Except.bind, pure, Except.pure]

end

theorem claimedBy_eq_mismatch_iff {α : Type} {field path : String} {mismatch : Mismatch}
    {result : Except ConversionError α} :
    claimedBy field result = .error (.fieldMismatch path mismatch) ↔
      ∃ inner, result = .error (.fieldMismatch inner mismatch) ∧
        path = if inner = "" then field else field ++ "." ++ inner := by
  cases result with
  | ok a => simp
  | error e =>
    cases e <;> simp [ConversionError.inField, eq_comm, and_comm]

section

variable {types : Schema} {rules : List TypeRule}
variable {nested : RecordId → Except ConversionError RecordDescriptor}

/-! ## 3. Items -/

theorem encodeItems_eq_ok_iff {type : FieldType} {items : List Value} {stored : List Bson} :
    encodeItems types rules nested type items = .ok stored ↔
      List.Forall₂ (fun item b => encodeValue types rules nested type item = .ok b)
        items stored := by
  induction items generalizing stored with
  | nil => rw [encodeItems, pure_eq_ok_iff, List.forall₂_nil_left_iff]
  | cons item rest ih =>
    rw [encodeItems, cons_eq_ok_iff, List.forall₂_cons_left_iff]
    simp only [ih]

theorem decodeItems_eq_ok_iff {type : FieldType} {stored : List Bson} {items : List Value} :
    decodeItems types rules nested type stored = .ok items ↔
      List.Forall₂ (fun b item => decodeValue types rules nested type b = .ok item)
        stored items := by
  induction stored generalizing items with
  | nil => rw [decodeItems, pure_eq_ok_iff, List.forall₂_nil_left_iff]
  | cons b rest ih =>
    rw [decodeItems, cons_eq_ok_iff, List.forall₂_cons_left_iff]
    simp only [ih]

theorem decodeItems_eq_error_iff {type : FieldType} {stored : List Bson} {e : ConversionError} :
    decodeItems types rules nested type stored = .error e ↔
      FirstFails (decodeValue types rules nested type) stored e := by
  induction stored with
  | nil =>
    rw [decodeItems]
    exact iff_of_false (by rintro ⟨⟩) (not_firstFails_nil _ e)
  | cons b rest ih => rw [decodeItems, cons_eq_error_iff, firstFails_cons_iff, ih]

/-! ## 4. Fields -/

/-- The document of as many values as there are fields has an entry for each. -/
theorem encodeEach_eq_ok_iff {fields : List FieldDescriptor} {values : List Value} {d : Document} :
    encodeEach types rules nested fields values = .ok d ↔
      List.Forall₂ (fun (pair : FieldDescriptor × Value) entry => entry.1 = pair.1.key ∧
          encodeValue types rules nested pair.1.type pair.2 = .ok entry.2)
        (fields.zip values) d := by
  induction fields generalizing values d with
  | nil =>
    rw [encodeEach, pure_eq_ok_iff, List.zip_nil_left, List.forall₂_nil_left_iff]
    rintro field fields value rest ⟨⟩
  | cons field fields ih =>
    cases values with
    | nil =>
      rw [encodeEach, pure_eq_ok_iff, List.zip_nil_right, List.forall₂_nil_left_iff]
      rintro field fields value rest _ ⟨⟩
    | cons value rest =>
      rw [encodeEach, cons_eq_ok_iff, List.zip_cons_cons, List.forall₂_cons_left_iff]
      simp only [claimedBy_eq_ok_iff, ih]
      constructor
      · rintro ⟨b, others, hb, hothers, rfl⟩
        exact ⟨(field.key, b), others, ⟨rfl, hb⟩, hothers, rfl⟩
      · rintro ⟨⟨key, b⟩, others, ⟨rfl, hb⟩, hothers, rfl⟩
        exact ⟨b, others, hb, hothers, rfl⟩

/-- The document has the keys of the fields, in their order. -/
theorem keys_of_encodeEach {fields : List FieldDescriptor} {values : List Value} {d : Document}
    (hlength : values.length = fields.length)
    (hencode : encodeEach types rules nested fields values = .ok d) :
    d.keys = fields.map FieldDescriptor.key := by
  have hkeys : List.Forall₂ Eq ((fields.zip values).map fun pair => pair.1.key) d.keys := by
    rw [Document.keys, List.forall₂_map_left_iff, List.forall₂_map_right_iff]
    exact (encodeEach_eq_ok_iff.mp hencode).imp fun _ _ hentry => hentry.1.symm
  calc d.keys
      = (fields.zip values).map (FieldDescriptor.key ∘ Prod.fst) :=
        (List.forall₂_eq_eq_eq ▸ hkeys).symm
    _ = ((fields.zip values).map Prod.fst).map FieldDescriptor.key := List.map_map.symm
    _ = fields.map FieldDescriptor.key := by rw [List.map_fst_zip (Nat.le_of_eq hlength.symm)]

/-- Under the key of a field stands what its value is encoded as. -/
theorem exists_stored {fields : List FieldDescriptor} {values : List Value} {d : Document}
    (hnodup : d.keys.Nodup)
    (hencode : encodeEach types rules nested fields values = .ok d)
    {i : Nat} {field : FieldDescriptor} {value : Value} (hfield : fields[i]? = some field)
    (hvalue : values[i]? = some value) :
    ∃ stored, d.get? field.key = some stored ∧
      encodeValue types rules nested field.type value = .ok stored := by
  obtain ⟨hlength, hentries⟩ := forall₂_iff_getElem?.mp (encodeEach_eq_ok_iff.mp hencode)
  have hpair : (fields.zip values)[i]? = some (field, value) :=
    List.getElem?_zip_eq_some.mpr ⟨hfield, hvalue⟩
  obtain ⟨hi, -⟩ := List.getElem?_eq_some_iff.mp hpair
  have hentry := List.getElem?_eq_getElem (hlength ▸ hi)
  obtain ⟨hkey, hstored⟩ := hentries i _ _ hpair hentry
  exact ⟨_, hkey ▸ Document.get?_of_mem hnodup (List.mem_of_getElem? hentry), hstored⟩

theorem encodeFields_eq_ok_iff {descriptor : RecordDescriptor} {values : List Value}
    {d : Document} :
    encodeFields types rules nested descriptor values = .ok d ↔
      values.length = descriptor.fields.length ∧
        encodeEach types rules nested descriptor.fields values = .ok d := by
  rw [encodeFields]
  split
  · rename_i h
    exact (and_iff_right h).symm
  · rename_i h
    exact iff_of_false (by rintro ⟨⟩) fun e => h e.1

theorem encodeFields_of_entries {descriptor : RecordDescriptor} {values : List Value} {d : Document}
    (hlength : values.length = descriptor.fields.length)
    (h : List.Forall₂ (fun (pair : FieldDescriptor × Value) entry => entry.1 = pair.1.key ∧
        encodeValue types rules nested pair.1.type pair.2 = .ok entry.2)
      (descriptor.fields.zip values) d) :
    encodeFields types rules nested descriptor values = .ok d :=
  encodeFields_eq_ok_iff.mpr ⟨hlength, encodeEach_eq_ok_iff.mpr h⟩

theorem decodeFields_eq_ok_iff {fields : List FieldDescriptor} {d : Document}
    {values : List Value} :
    decodeFields types rules nested fields d = .ok values ↔
      List.Forall₂ (fun field value =>
          decodeValue types rules nested field.type (d.getOrNull field.key) = .ok value)
        fields values := by
  induction fields generalizing values with
  | nil => rw [decodeFields, pure_eq_ok_iff, List.forall₂_nil_left_iff]
  | cons field fields ih =>
    rw [decodeFields, cons_eq_ok_iff, List.forall₂_cons_left_iff]
    simp only [claimedBy_eq_ok_iff, ih]

theorem decodeFields_eq_error_iff {fields : List FieldDescriptor} {d : Document}
    {e : ConversionError} :
    decodeFields types rules nested fields d = .error e ↔
      FirstFails (fun field => claimedBy field.name
        (decodeValue types rules nested field.type (d.getOrNull field.key))) fields e := by
  induction fields with
  | nil =>
    rw [decodeFields]
    exact iff_of_false (by rintro ⟨⟩) (not_firstFails_nil _ e)
  | cons field fields ih => rw [decodeFields, cons_eq_error_iff, firstFails_cons_iff, ih]

/-! ## 5. Parts that convert alike -/

variable {others : List TypeRule}

/-- What goes on after a step that succeeds is the same. -/
theorem bind_congr_of_ok {ε α β : Type} {first : Except ε α} {next after : α → Except ε β}
    (h : ∀ a, first = .ok a → next a = after a) : first >>= next = first >>= after := by
  cases first with
  | error e => rfl
  | ok a => exact h a rfl

theorem encodeItems_congr {type : FieldType} {items : List Value}
    (h : ∀ item ∈ items, encodeValue types rules nested type item =
      encodeValue types others nested type item) :
    encodeItems types rules nested type items = encodeItems types others nested type items := by
  induction items with
  | nil => rw [encodeItems, encodeItems]
  | cons item rest ih =>
    obtain ⟨hfirst, hrest⟩ := List.forall_mem_cons.mp h
    rw [encodeItems, encodeItems, hfirst, ih hrest]

theorem encodeEach_congr {fields : List FieldDescriptor} {values : List Value}
    (h : ∀ field value, (field, value) ∈ fields.zip values →
      encodeValue types rules nested field.type value =
        encodeValue types others nested field.type value) :
    encodeEach types rules nested fields values = encodeEach types others nested fields values := by
  induction fields generalizing values with
  | nil => rw [encodeEach.eq_def, encodeEach.eq_def]
  | cons field fields ih =>
    cases values with
    | nil => rw [encodeEach.eq_def, encodeEach.eq_def]
    | cons value rest =>
      rw [encodeEach, encodeEach, h field value List.mem_cons_self,
        ih fun field value hmem => h field value (List.mem_cons_of_mem _ hmem)]

theorem encodeFields_congr {descriptor : RecordDescriptor} {values : List Value}
    (h : ∀ field value, (field, value) ∈ descriptor.fields.zip values →
      encodeValue types rules nested field.type value =
        encodeValue types others nested field.type value) :
    encodeFields types rules nested descriptor values =
      encodeFields types others nested descriptor values := by
  rw [encodeFields, encodeFields, encodeEach_congr h]

theorem decodeItems_congr {type : FieldType} {items again : List Bson}
    (h : List.Forall₂ (fun item other => decodeValue types rules nested type item =
      decodeValue types others nested type other) items again) :
    decodeItems types rules nested type items = decodeItems types others nested type again := by
  induction h with
  | nil => rw [decodeItems, decodeItems]
  | cons hfirst _ ih => rw [decodeItems, decodeItems, hfirst, ih]

theorem decodeFields_congr {fields : List FieldDescriptor} {d again : Document}
    (h : ∀ field ∈ fields, decodeValue types rules nested field.type (d.getOrNull field.key) =
      decodeValue types others nested field.type (again.getOrNull field.key)) :
    decodeFields types rules nested fields d = decodeFields types others nested fields again := by
  induction fields with
  | nil => rw [decodeFields, decodeFields]
  | cons field rest ih =>
    obtain ⟨hfirst, hrest⟩ := List.forall_mem_cons.mp h
    rw [decodeFields, decodeFields, hfirst, ih hrest]

end

end Dossier
