/-
# Remembered descriptors cannot be noticed

A converter keeps the descriptors that it has built: those of top-level records and those of nested
ones apart, since a type has other keys in the other place.  What a conversion gives must not depend
on what was asked before: not on the types that were seen, in whichever place, not on conversions
that failed half-way and kept what they had built by then, and not on changes of the settings.

The caches are at all times faithful (`DescriptorCaches.Faithful`): what is kept for a type in a
place is what building it for that place, with the settings as they are now, would give.  A change
of the settings forgets everything, so nothing built by other settings remains.  A conversion
`Gives` a result if it does so from all faithful caches, and leaves faithful caches.  Looking a
descriptor up gives the build of it, and this passes through every step of a conversion, along the
conversion's own recursion (`gives_encodeValue`, `gives_decodeValue`).

Main statement: `CachedConverter.answer_after` (after any requests, the answer is that of a new
converter with the settings as they are by then, which is the answer without caches).
-/
import Dossier.Converter.Cached
import Dossier.Proofs.Converter.RoundTrip

namespace Dossier

/-! ## 1. Caches that hold what would be built -/

/-- What is kept for a record type is what building its descriptor gives. -/
def DescriptorCache.Faithful {ε δ : Type} (cache : DescriptorCache δ)
    (build : RecordId → Except ε δ) : Prop :=
  ∀ id d, cache.get? id = some d → build id = .ok d

theorem DescriptorCache.faithful_empty {ε δ : Type} (build : RecordId → Except ε δ) :
    ({} : DescriptorCache δ).Faithful build := by
  rintro id d ⟨⟩

/-- **A lookup in a faithful cache is a build.**  The cache stays faithful, whether the descriptor
was there, is stored, or cannot be built. -/
theorem DescriptorCache.Faithful.getOrInsert {ε δ : Type} {cache : DescriptorCache δ}
    {build : RecordId → Except ε δ} (h : cache.Faithful build) (id : RecordId) :
    (cache.getOrInsert id (build id)).1 = build id ∧
      (cache.getOrInsert id (build id)).2.Faithful build := by
  unfold DescriptorCache.getOrInsert
  cases hget : cache.get? id with
  | some d => exact ⟨(h id d hget).symm, h⟩
  | none =>
    cases hbuild : build id with
    | error e => exact ⟨rfl, h⟩
    | ok d =>
      refine ⟨rfl, fun other found hfound => ?_⟩
      dsimp only at hfound
      rw [DescriptorCache.get?_insertIfAbsent, hget, Option.getD_none] at hfound
      by_cases hother : other = id
      · rw [if_pos hother] at hfound
        cases hfound
        rw [hother, hbuild]
      · rw [if_neg hother] at hfound
        exact h other found hfound

/-- Both caches hold what would be built: the one for top-level records by the converter's settings,
the other for nested ones without. -/
structure DescriptorCaches.Faithful (caches : DescriptorCaches) (c : Converter) (types : Schema) :
    Prop where
  topLevel : caches.topLevel.Faithful fun id => c.describe (types id)
  nested : caches.nested.Faithful (nestedDescriptor types)

theorem DescriptorCaches.faithful_empty (c : Converter) (types : Schema) :
    ({} : DescriptorCaches).Faithful c types :=
  ⟨DescriptorCache.faithful_empty _, DescriptorCache.faithful_empty _⟩

/-! ## 2. Conversions that do not depend on what is kept -/

namespace CachedConversion

variable {c : Converter} {types : Schema} {α β : Type}

/-- From all faithful caches the conversion gives the same result, and leaves faithful caches. -/
def Gives (c : Converter) (types : Schema) (p : CachedConversion α)
    (result : Except ConversionError α) : Prop :=
  ∀ caches : DescriptorCaches, caches.Faithful c types →
    (p caches).1 = result ∧ DescriptorCaches.Faithful (p caches).2 c types

theorem gives_pure (a : α) : Gives c types (pure a) (pure a) := fun _ h => ⟨rfl, h⟩

theorem gives_throw (e : ConversionError) :
    Gives c types (throw e : CachedConversion α) (throw e) := fun _ h => ⟨rfl, h⟩

theorem gives_ofExcept (result : Except ConversionError α) :
    Gives c types (MonadExcept.ofExcept result) result := by
  cases result with
  | ok a => exact gives_pure a
  | error e => exact gives_throw e

theorem bind_apply (p : CachedConversion α) (f : α → CachedConversion β)
    (caches : DescriptorCaches) :
    (p >>= f) caches = match p caches with
      | (.ok a, caches) => f a caches
      | (.error e, caches) => (.error e, caches) := by
  show ExceptT.bindCont f (p caches).1 (p caches).2 = _
  rcases p caches with ⟨result, caches'⟩
  cases result <;> rfl

theorem claimedBy_apply (field : String) (p : CachedConversion α) (caches : DescriptorCaches) :
    claimedBy field p caches = (claimedBy field (p caches).1, (p caches).2) := by
  unfold claimedBy tryCatchThe
  dsimp only [MonadExceptOf.tryCatch, ExceptT.tryCatch, ExceptT.mk, bind, StateT.bind]
  rcases p caches with ⟨result, caches'⟩
  cases result <;> rfl

/-- A failure of the first step leaves faithful caches as well, with all that it has built. -/
theorem Gives.bind {p : CachedConversion α} {result : Except ConversionError α}
    {f : α → CachedConversion β} {g : α → Except ConversionError β} (hp : Gives c types p result)
    (hf : ∀ a, Gives c types (f a) (g a)) : Gives c types (p >>= f) (result >>= g) := by
  intro caches h
  obtain ⟨rfl, hfaithful⟩ := hp caches h
  rw [bind_apply]
  rcases hrun : p caches with ⟨result, caches'⟩
  rw [hrun] at hfaithful
  cases result with
  | error e => exact ⟨rfl, hfaithful⟩
  | ok a => exact hf a caches' hfaithful

theorem Gives.claimedBy {p : CachedConversion α} {result : Except ConversionError α}
    (field : String) (hp : Gives c types p result) :
    Gives c types (claimedBy field p) (claimedBy field result) := by
  intro caches h
  obtain ⟨rfl, hfaithful⟩ := hp caches h
  rw [claimedBy_apply]
  exact ⟨rfl, hfaithful⟩

theorem gives_topLevel (id : RecordId) :
    Gives c types (topLevel c types id) (c.describe (types id)) := by
  intro caches h
  obtain ⟨hfound, hfaithful⟩ := h.topLevel.getOrInsert id
  exact ⟨hfound, hfaithful, h.nested⟩

theorem gives_nested (id : RecordId) :
    Gives c types (nested types id) (nestedDescriptor types id) := by
  intro caches h
  obtain ⟨hfound, hfaithful⟩ := h.nested.getOrInsert id
  exact ⟨hfound, h.topLevel, hfaithful⟩

/-! ## 3. Values -/

variable {rules : List TypeRule}

theorem gives_refuse (type : FieldType) (found : String) :
    Gives c types (refuse types type found : CachedConversion α) (refuse types type found) := by
  cases type <;> exact gives_throw _

theorem gives_narrow (n : Int64) : Gives c types (narrow types n) (narrow types n) := by
  unfold narrow
  split
  · exact gives_pure _
  · exact gives_throw _

mutual

theorem gives_encodeValue (type : FieldType) (value : Value) :
    Gives c types (encodeValue types rules (nested types) type value)
      (encodeValue types rules (nestedDescriptor types) type value) := by
  rw [encodeValue.eq_def, encodeValue.eq_def]
  cases findRule rules type with
  | some rule =>
    dsimp only
    rw [ofExcept_eq_self]
    exact gives_ofExcept _
  | none =>
    dsimp only
    split
    any_goals exact gives_pure _
    -- The other cases go on to a part of the value, or refuse it.
    · exact gives_encodeValue _ _
    · exact (gives_encodeItems _ _).bind fun _ => gives_pure _
    · exact (gives_encodeItems _ _).bind fun _ => gives_pure _
    · exact (gives_nested _).bind fun _ => (gives_encodeFields _ _).bind fun _ => gives_pure _
    · exact gives_refuse _ _
termination_by (sizeOf value, 2 + sizeOf type)

theorem gives_encodeItems (type : FieldType) (items : List Value) :
    Gives c types (encodeItems types rules (nested types) type items)
      (encodeItems types rules (nestedDescriptor types) type items) := by
  rw [encodeItems.eq_def, encodeItems.eq_def]
  cases items with
  | nil => exact gives_pure _
  | cons item rest =>
    exact (gives_encodeValue _ _).bind fun _ => (gives_encodeItems _ _).bind fun _ => gives_pure _
termination_by (sizeOf items, 0)

theorem gives_encodeFields (descriptor : RecordDescriptor) (values : List Value) :
    Gives c types (encodeFields types rules (nested types) descriptor values)
      (encodeFields types rules (nestedDescriptor types) descriptor values) := by
  rw [encodeFields, encodeFields]
  split
  · exact gives_encodeEach _ _
  · exact gives_throw _
termination_by (sizeOf values, 1)

theorem gives_encodeEach (fields : List FieldDescriptor) (values : List Value) :
    Gives c types (encodeEach types rules (nested types) fields values)
      (encodeEach types rules (nestedDescriptor types) fields values) := by
  rw [encodeEach.eq_def, encodeEach.eq_def]
  split
  · exact ((gives_encodeValue _ _).claimedBy _).bind fun _ =>
      (gives_encodeEach _ _).bind fun _ => gives_pure _
  · exact gives_pure _
termination_by (sizeOf values, 0)

end

mutual

theorem gives_decodeValue (type : FieldType) (stored : Bson) :
    Gives c types (decodeValue types rules (nested types) type stored)
      (decodeValue types rules (nestedDescriptor types) type stored) := by
  rw [decodeValue.eq_def, decodeValue.eq_def]
  cases findRule rules type with
  | some rule =>
    dsimp only
    rw [ofExcept_eq_self]
    exact gives_ofExcept _
  | none =>
    dsimp only
    split
    any_goals exact gives_pure _
    · exact gives_decodeValue _ _
    · exact gives_narrow _
    · exact (gives_decodeItems _ _).bind fun _ => gives_pure _
    · exact (gives_decodeItems _ _).bind fun _ => gives_pure _
    · exact (gives_nested _).bind fun _ => (gives_decodeFields _ _).bind fun _ => gives_pure _
    · exact gives_refuse _ _
termination_by (2 * sizeOf stored, sizeOf type)

theorem gives_decodeItems (type : FieldType) (items : List Bson) :
    Gives c types (decodeItems types rules (nested types) type items)
      (decodeItems types rules (nestedDescriptor types) type items) := by
  rw [decodeItems.eq_def, decodeItems.eq_def]
  cases items with
  | nil => exact gives_pure _
  | cons item rest =>
    exact (gives_decodeValue _ _).bind fun _ => (gives_decodeItems _ _).bind fun _ => gives_pure _
termination_by (2 * sizeOf items, 0)

theorem gives_decodeFields (fields : List FieldDescriptor) (d : Document) :
    Gives c types (decodeFields types rules (nested types) fields d)
      (decodeFields types rules (nestedDescriptor types) fields d) := by
  rw [decodeFields.eq_def, decodeFields.eq_def]
  cases fields with
  | nil => exact gives_pure _
  | cons field rest =>
    exact ((gives_decodeValue _ _).claimedBy _).bind fun _ =>
      (gives_decodeFields _ _).bind fun _ => gives_pure _
termination_by (2 * sizeOf d + 1, sizeOf fields)
decreasing_by
  · have := d.sizeOf_getOrNull_le field.key
    exact Prod.Lex.left _ _ (by omega)
  · exact Prod.Lex.right _ (by simp only [List.cons.sizeOf_spec]; omega)

end

/-! ## 4. Whole records -/

theorem gives_encode (id : RecordId) (values : List Value) :
    Gives c types (do
      let descriptor ← topLevel c types id
      encodeFields types c.rules (nested types) descriptor values) (c.encode types id values) :=
  (gives_topLevel id).bind fun _ => gives_encodeFields _ _

theorem gives_decode (id : RecordId) (d : Document) :
    Gives c types (do
      let descriptor ← topLevel c types id
      let values ← decodeFields types c.rules (nested types) descriptor.fields d
      MonadExcept.ofExcept ((types id).accept types values)) (c.decode types id d) := by
  unfold Converter.decode Converter.decodeValues
  rw [bind_assoc]
  exact (gives_topLevel id).bind fun _ => (gives_decodeFields _ _).bind fun _ =>
    gives_ofExcept _

end CachedConversion

/-! ## 5. Requests -/

namespace Converter

/-- A call that changes the settings. -/
inductive Change where
  | withMapping (field key : String)
  | withRule (rule : TypeRule)
  | withRules (rules : List TypeRule)
  | withIdentityField (field : String)
  | withIdentityKey (key : String)

def Change.apply : Change → Converter → Converter
  | .withMapping field key, c => c.withMapping field key
  | .withRule rule, c => c.withRule rule
  | .withRules rules, c => c.withRules rules
  | .withIdentityField field, c => c.withIdentityField field
  | .withIdentityKey key, c => c.withIdentityKey key

/-- What a converter is asked for. -/
inductive Request where
  | descriptor (id : RecordId)
  | encode (id : RecordId) (values : List Value)
  | decode (id : RecordId) (d : Document)
  | configure (change : Change)

inductive Answer where
  | descriptor (result : Except ConversionError RecordDescriptor)
  | document (result : Except ConversionError Document)
  | values (result : Except ConversionError (List Value))
  | configured

/-- The settings after a request. -/
def afterRequest (c : Converter) : Request → Converter
  | .configure change => change.apply c
  | _ => c

/-- The answer of a converter that remembers nothing. -/
def answer (c : Converter) (types : Schema) : Request → Answer
  | .descriptor id => .descriptor (c.describe (types id))
  | .encode id values => .document (c.encode types id values)
  | .decode id d => .values (c.decode types id d)
  | .configure _ => .configured

end Converter

namespace CachedConverter

open Converter (Answer Request)

/-- A converter that has not been asked for anything yet. -/
def fresh (c : Converter) : CachedConverter := { converter := c }

/-- The answer to a request, and the converter after it. -/
def serve (types : Schema) (s : CachedConverter) : Request → Answer × CachedConverter
  | .descriptor id =>
    let (result, s) := s.describe types id
    (.descriptor result, s)
  | .encode id values =>
    let (result, s) := s.encode types id values
    (.document result, s)
  | .decode id d =>
    let (result, s) := s.decode types id d
    (.values result, s)
  | .configure change => (.configured, s.reconfigure change.apply)

/-- The answer to a request. -/
def answer (types : Schema) (s : CachedConverter) (request : Request) : Answer :=
  (s.serve types request).1

/-- The converter after requests, from first to last. -/
def after (types : Schema) (s : CachedConverter) (requests : List Request) : CachedConverter :=
  requests.foldl (fun s request => (s.serve types request).2) s

/-! ## 6. Whatever was asked before -/

variable {types : Schema}

/-- The converter holds nothing but what its settings would build. -/
def Current (types : Schema) (s : CachedConverter) : Prop := s.caches.Faithful s.converter types

theorem current_fresh (types : Schema) (c : Converter) : (fresh c).Current types :=
  DescriptorCaches.faithful_empty c types

theorem run_eq {α : Type} {s : CachedConverter} (hs : s.Current types)
    {conversion : CachedConversion α} {result : Except ConversionError α}
    (h : CachedConversion.Gives s.converter types conversion result) :
    ∃ caches : DescriptorCaches, caches.Faithful s.converter types ∧
      s.run conversion = (result, { s with caches }) := by
  obtain ⟨hresult, hfaithful⟩ := h s.caches hs
  exact ⟨_, hfaithful, congrArg (·, _) hresult⟩

/-- **One request.**  The answer is that without caches, the settings are changed by changes only,
and what is remembered fits them. -/
theorem Current.serve {s : CachedConverter} (hs : s.Current types) (request : Request) :
    s.answer types request = s.converter.answer types request ∧
      (s.serve types request).2.converter = s.converter.afterRequest request ∧
      (s.serve types request).2.Current types := by
  cases request with
  | descriptor id =>
    obtain ⟨caches, hcaches, hrun⟩ := run_eq hs (CachedConversion.gives_topLevel id)
    simp only [answer, CachedConverter.serve, CachedConverter.describe, hrun]
    exact ⟨rfl, rfl, hcaches⟩
  | encode id values =>
    obtain ⟨caches, hcaches, hrun⟩ := run_eq hs (CachedConversion.gives_encode id values)
    simp only [answer, CachedConverter.serve, CachedConverter.encode, hrun]
    exact ⟨rfl, rfl, hcaches⟩
  | decode id d =>
    obtain ⟨caches, hcaches, hrun⟩ := run_eq hs (CachedConversion.gives_decode id d)
    simp only [answer, CachedConverter.serve, CachedConverter.decode, hrun]
    exact ⟨rfl, rfl, hcaches⟩
  | configure change => exact ⟨rfl, rfl, current_fresh types _⟩

/-- **Any requests.**  By induction on them. -/
theorem Current.after {s : CachedConverter} (hs : s.Current types) (requests : List Request) :
    (s.after types requests).converter = requests.foldl Converter.afterRequest s.converter ∧
      (s.after types requests).Current types := by
  induction requests generalizing s with
  | nil => exact ⟨rfl, hs⟩
  | cons request rest ih =>
    obtain ⟨-, hconverter, hnext⟩ := hs.serve request
    rw [List.foldl_cons, ← hconverter]
    exact ih hnext

/-- **Remembered descriptors cannot be noticed.**  Whatever a converter was asked for before, and
however its settings were changed meanwhile, it answers like a new one with the settings as they are
now, and that is the answer of a converter that remembers nothing. -/
theorem answer_after (types : Schema) (c : Converter) (before : List Request) (request : Request) :
    let configured := before.foldl Converter.afterRequest c
    ((fresh c).after types before).answer types request =
        (fresh configured).answer types request ∧
      (fresh configured).answer types request = configured.answer types request := by
  obtain ⟨hconverter, hcurrent⟩ := (current_fresh types c).after before
  obtain ⟨hanswer, -⟩ := hcurrent.serve request
  obtain ⟨hfresh, -⟩ :=
    (current_fresh types (before.foldl Converter.afterRequest c)).serve request
  exact ⟨(hanswer.trans (by rw [hconverter]; rfl)).trans hfresh.symm, hfresh⟩

end CachedConverter

end Dossier
