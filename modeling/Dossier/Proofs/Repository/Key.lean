/-
# Identities as keys

The identity of a record takes three forms: the value of its identity field, the value that is
stored under the identity key, and the literal by which it is asked for.  The store itself compares
the stored values by sameness when a record is inserted, and by the looser agreement of queries when
one is looked for.

On identities the two comparisons come to the same.  Each stored identity stands for one key
(`Bson.Keyed`), a literal at the resolution of the store (`Literal.atMillis`), and

* two stored identities are the same exactly if their keys are equal (`Bson.Keyed.same_iff`);
* one agrees with a literal exactly if its key is that of the literal (`Bson.Keyed.agrees_iff`).

This holds for the types of `FieldType.identifying`, on which a repository can rely.  A double would
not do: a NaN is not the same as itself.
-/
import Dossier.Proofs.Converter.RoundTrip
import Dossier.Proofs.Query.Meaning
import Dossier.Proofs.Query.Path
import Dossier.Repository.Basic

namespace Dossier

/-- The literal that stands for a value; null if none does. -/
def Value.literal : Value → Literal
  | .bool b => .bool b
  | .int32 n => .int n.toInt64
  | .int64 n => .int n
  | .double x => .double x
  | .string s => .string s
  | .instant t => .instant t
  | _ => .null

/-- The literal at the resolution of stored dates. -/
def Literal.atMillis : Literal → Literal
  | .instant t => .instant (Instant.ofMillis t.toMillis)
  | other => other

/-- The types whose values identify a record. -/
def FieldType.identifying : List FieldType := [.bool, .int32, .int64, .string, .instant]

/-! ## 1. Stored identities -/

/-- The stored value of an identity, and its key. -/
inductive Bson.Keyed : FieldType → Bson → Literal → Prop where
  | bool (b : Bool) : Keyed .bool (.boolean b) (.bool b)
  | int32 (n : Int32) : Keyed .int32 (.int32 n) (.int n.toInt64)
  | int64 (n : Int64) : Keyed .int64 (.int64 n) (.int n)
  | string (s : String) : Keyed .string (.string s) (.string s)
  | instant (t : Instant) (ordinary : t.nanos < 1000000000) :
    Keyed .instant (.date (Int64.ofInt t.toMillis)) (.instant (Instant.ofMillis t.toMillis))

theorem Value.HasType.keyed {types : Schema}
    {nested : RecordId → Except ConversionError RecordDescriptor} {type : FieldType} {value : Value}
    {stored : Bson} (h : Value.HasType types type value) (htype : type ∈ FieldType.identifying)
    (hordinary : value.Ordinary)
    (hencode : encodeValue types TypeRule.standard nested type value = .ok stored) :
    Bson.Keyed type stored value.literal.atMillis := by
  cases h with
  | plain h =>
    cases h with
    | bool b =>
      rw [encodeValue.eq_def] at hencode
      cases hencode
      exact .bool b
    | int32 n =>
      rw [encodeValue.eq_def] at hencode
      cases hencode
      exact .int32 n
    | int64 n =>
      rw [encodeValue.eq_def] at hencode
      cases hencode
      exact .int64 n
    | string s =>
      rw [encodeValue_string] at hencode
      cases hencode
      exact .string s
    | instant t =>
      rw [encodeValue_instant] at hencode
      cases hencode
      exact .instant t hordinary
    | _ => simp [FieldType.identifying] at htype
  | _ => simp [FieldType.identifying] at htype

/-- Instants that are stored as the same date have the same key. -/
theorem Instant.ofMillis_toMillis_eq_iff {s t : Instant} (hs : s.nanos < 1000000000) :
    ofMillis s.toMillis = ofMillis t.toMillis ↔ s.toMillis = t.toMillis := by
  refine ⟨fun h => ?_, fun h => h ▸ rfl⟩
  have h1 := s.le_last
  obtain ⟨hlow, -⟩ := s.toMillis_bounds
  obtain ⟨hlow', -⟩ := t.toMillis_bounds
  have hhigh : s.toMillis ≤ 8210266876799999 := by unfold toMillis; omega
  obtain ⟨hseconds, hnanos⟩ := ofMillis_seconds hlow hhigh
  by_cases hhigh' : t.toMillis ≤ 8210266876799999
  · obtain ⟨hseconds', hnanos'⟩ := ofMillis_seconds hlow' hhigh'
    rw [h] at hseconds hnanos
    omega
  · -- A leap second after the last millisecond is kept to the last nanosecond, which no
    -- stored date stands for.
    have hlast : ofMillis t.toMillis = last := by
      unfold ofMillis
      rw [dif_neg (by omega), dif_pos (by omega)]
    rw [h, hlast] at hnanos
    have : last.nanos = 999999999 := rfl
    omega

namespace Bson.Keyed

variable {type : FieldType} {stored other : Bson} {key otherKey : Literal}

theorem items_eq_nil (h : Keyed type stored key) : stored.items = [] := by
  cases h <;> rfl

/-- The date of an instant is that of another exactly if the instants have the same key. -/
theorem date_beq_iff {s t : Instant} (hs : s.nanos < 1000000000) :
    (Int64.ofInt s.toMillis == Int64.ofInt t.toMillis) = true ↔
      Literal.instant (Instant.ofMillis s.toMillis) = .instant (Instant.ofMillis t.toMillis) := by
  rw [beq_iff_eq, Literal.instant.injEq, Instant.ofMillis_toMillis_eq_iff hs, ← Int64.toInt_inj,
    s.toInt_ofInt_toMillis, t.toInt_ofInt_toMillis]

/-- **Stored identities are the same exactly if their keys are equal.** -/
theorem same_iff (h : Keyed type stored key) (hother : Keyed type other otherKey) :
    stored.same other = true ↔ key = otherKey := by
  cases h with
  | instant s hs =>
    cases hother with
    | instant t ht => exact date_beq_iff hs
  | _ =>
    cases hother
    simp [same, ← Int64.toInt_inj, ← Int32.toInt_inj]

/-- **A stored identity agrees with a literal exactly if they have the same key.** -/
theorem agrees_iff (h : Keyed type stored key) {value : Value} (hvalue : Value.Plain type value) :
    stored.agrees value.literal.toBson = true ↔ key = value.literal.atMillis := by
  cases h with
  | instant s hs =>
    cases hvalue with
    | instant t => exact date_beq_iff hs
  | _ =>
    cases hvalue
    simp [agrees, agreesPlain, number?, Number.agrees, same, Value.literal, Literal.toBson,
      Literal.atMillis, ← Int64.toInt_inj]

/-- An identity reads the same in an error, whichever of its forms is written. -/
theorem toText_eq (h : Keyed type stored key) : stored.toText = key.toBson.toText := by
  cases h with
  | bool b => rfl
  | int32 n => simp [toText, Literal.toBson]
  | int64 n => rfl
  | string s => rfl
  | instant t ordinary =>
    have h1 := t.le_last
    obtain ⟨hlow, -⟩ := t.toMillis_bounds
    have hhigh : t.toMillis ≤ 8210266876799999 := by unfold Instant.toMillis; omega
    rw [Literal.toBson, Instant.toMillis_ofMillis hlow hhigh]

/-- The key is what the stored identity reads as. -/
theorem ofBson_eq (h : Keyed type stored key) : Literal.ofBson stored = .ok key := by
  cases h with
  | instant t ordinary => rw [Literal.ofBson, t.toInt_ofInt_toMillis]
  | _ => rfl

end Bson.Keyed

/-! ## 2. Asking for an identity -/

/-- The query for an identity. -/
def Literal.identityQuery (id : Literal) : Document :=
  [(storeIdentityKey, .document (Operator.eq.query id))]

theorem Repository.identityQuery_eq {r : Repository}
    (h : r.converter.identityKey = storeIdentityKey) (id : Literal) :
    r.identityQuery id = .done (.ok id.identityQuery) := by
  unfold Repository.identityQuery
  rw [h]
  rfl

/-- The query holds of the documents whose identity equals the literal, and gives no error. -/
theorem Literal.holds_identityQuery (d : Document) (id : Literal) :
    Query.holds d id.identityQuery =
      .ok (Comparison.equals (d.get? storeIdentityKey) id.toBson) := by
  have hreadable : Comparison.Readable ⟨storeIdentityKey, .eq, id⟩ := fun h => nomatch h
  unfold Literal.identityQuery
  rw [Query.holds_single, Query.holdsKey_field d rfl (Query.all_isOperatorKey_query .eq id),
    Path.segments_eq_singleton_iff.mpr ⟨rfl, by decide⟩]
  exact Query.holdsOperators_query _ hreadable

/-- **A document with an identity is found by the literals of its key, and by no others.** -/
theorem Bson.Keyed.holds_identityQuery {type : FieldType} {stored : Bson} {key : Literal}
    (h : Keyed type stored key) {d : Document} (hd : d.get? storeIdentityKey = some stored)
    {value : Value} (hvalue : Value.Plain type value) :
    Query.holds d value.literal.identityQuery = .ok (key = value.literal.atMillis) := by
  rw [Literal.holds_identityQuery, hd, Comparison.equals, h.items_eq_nil, List.any_nil,
    Bool.or_false]
  exact congrArg Except.ok
    (Bool.eq_iff_iff.mpr ((h.agrees_iff hvalue).trans decide_eq_true_iff.symm))

end Dossier
