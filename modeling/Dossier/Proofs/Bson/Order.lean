/-
# The order of values

Values without parts come in four kinds that have an order: booleans, numbers, dates and strings.
Each is ordered among itself, and numbers of all three types are one kind (`Compares` has a case for
each kind).  Within a kind only a NaN is incomparable (`compare?_isSome_iff`), and for these values
agreement is the middle case of the order (`agrees_iff_compare?`).

Main statements: `compare?_swap` and `compare?_lt_trans`.  To be below is transitive, though
numbers that agree are not all the same: two integers beyond 53 bits agree with one double.
-/
import Dossier.Proofs.Bson.Agreement
import Dossier.Proofs.Double.Order

namespace Dossier

namespace Bson

/-! ## 1. Kinds -/

/-- The kinds of values that have an order. -/
inductive Kind where
  | boolean
  | number
  | date
  | string
deriving DecidableEq

/-- The kind of a value, if values of its type have an order. -/
def kind? : Bson → Option Kind
  | .boolean _ => some .boolean
  | .int32 _ | .int64 _ | .double _ => some .number
  | .date _ => some .date
  | .string _ => some .string
  | _ => none

/-- The value is of one of the ordered types, which have no parts. -/
def Ordered (a : Bson) : Prop := a.kind?.isSome = true

instance (a : Bson) : Decidable a.Ordered := inferInstanceAs (Decidable (_ = true))

/-- Whether the value is a double that is no number. -/
def isNaN : Bson → Bool
  | .double x => x.isNaN
  | _ => false

variable {a b c : Bson}

theorem kind?_of_number {m : Number} (h : a.number? = some m) : a.kind? = some .number := by
  cases a <;> cases h <;> rfl

theorem number?_of_kind? (h : a.kind? = some .number) : ∃ m, a.number? = some m := by
  cases a <;> cases h <;> exact ⟨_, rfl⟩

theorem isNaN_of_number {m : Number} (h : a.number? = some m) : a.isNaN = m.isNaN := by
  cases a <;> cases h <;> rfl

/-! ## 2. The pairs that have an order -/

/-- Two values of one kind stand to each other as the order of the kind has it. -/
inductive Compares (o : Ordering) : Bson → Bson → Prop
  | boolean {x y : Bool} (h : compare x y = o) : Compares o (.boolean x) (.boolean y)
  | date {x y : Int64} (h : compare x.toInt y.toInt = o) : Compares o (.date x) (.date y)
  | string {x y : String} (h : compare x y = o) : Compares o (.string x) (.string y)
  | number {a b : Bson} {m n : Number} (ha : a.number? = some m) (hb : b.number? = some n)
      (h : m.compare? n = some o) : Compares o a b

/-- **Two values have an order only within a kind.** -/
theorem compare?_eq_some_iff {o : Ordering} : a.compare? b = some o ↔ Compares o a b := by
  constructor
  · intro h
    cases ha : a.number? with
    | some m =>
      rw [compare?_of_number_left ha, Option.bind_eq_some_iff] at h
      obtain ⟨n, hb, hmn⟩ := h
      exact .number ha hb hmn
    | none =>
      cases a with
      | boolean x =>
        cases b with
        | boolean y => exact .boolean (Option.some.inj h)
        | _ => cases h
      | date x =>
        cases b with
        | date y => exact .date (Option.some.inj h)
        | _ => cases h
      | string x =>
        cases b with
        | string y => exact .string (Option.some.inj h)
        | _ => cases h
      | int32 _ | int64 _ | double _ => cases ha
      | _ => cases b <;> cases h
  · intro h
    cases h with
    | boolean h | date h | string h => exact congrArg some h
    | number ha hb h =>
      rw [compare?_of_number_left ha, hb]
      exact h

/-- The values are comparable exactly if they are of one kind, and neither is a NaN. -/
theorem compare?_isSome_iff :
    (a.compare? b).isSome = true ↔
      a.Ordered ∧ a.kind? = b.kind? ∧ a.isNaN = false ∧ b.isNaN = false := by
  constructor
  · intro h
    obtain ⟨o, ho⟩ := Option.isSome_iff_exists.mp h
    cases compare?_eq_some_iff.mp ho with
    | boolean | date | string => exact ⟨rfl, rfl, rfl, rfl⟩
    | number ha hb hmn =>
      have hnan := Number.compare?_isSome_iff.mp (Option.isSome_iff_exists.mpr ⟨o, hmn⟩)
      rw [Ordered, kind?_of_number ha, kind?_of_number hb, isNaN_of_number ha, isNaN_of_number hb]
      exact ⟨rfl, rfl, hnan⟩
  · rintro ⟨hordered, hkind, hnan⟩
    obtain ⟨kind, hk⟩ := Option.isSome_iff_exists.mp hordered
    rw [hk] at hkind
    cases kind with
    | number =>
      obtain ⟨m, hm⟩ := number?_of_kind? hk
      obtain ⟨n, hn⟩ := number?_of_kind? hkind.symm
      rw [isNaN_of_number hm, isNaN_of_number hn] at hnan
      rw [compare?_of_number_left hm, hn]
      exact Number.compare?_isSome_iff.mpr hnan
    | boolean | date | string =>
      cases a <;> cases hk
      cases b <;> cases hkind
      rfl

/-! ## 3. Laws of the order -/

theorem Compares.swap {o : Ordering} (h : Compares o a b) : Compares o.swap b a := by
  cases h with
  | boolean h => exact .boolean (h ▸ Std.OrientedCmp.eq_swap)
  | date h => exact .date (h ▸ Std.OrientedCmp.eq_swap)
  | string h => exact .string (h ▸ Std.OrientedCmp.eq_swap)
  | number ha hb h =>
    refine .number hb ha ?_
    rw [← Number.compare?_swap, h]
    rfl

/-- The order read from the other side. -/
theorem compare?_swap (a b : Bson) : (a.compare? b).map Ordering.swap = b.compare? a := by
  cases h : a.compare? b with
  | some o => exact (compare?_eq_some_iff.mpr (compare?_eq_some_iff.mp h).swap).symm
  | none =>
    cases h' : b.compare? a with
    | none => rfl
    | some o =>
      rw [compare?_eq_some_iff.mpr (compare?_eq_some_iff.mp h').swap] at h
      cases h

theorem Compares.lt_trans (hab : Compares .lt a b) (hbc : Compares .lt b c) :
    Compares .lt a c := by
  cases hab with
  | boolean hxy =>
    cases hbc with
    | boolean hyz => exact .boolean (Std.TransCmp.lt_trans hxy hyz)
    | number hb => cases hb
  | date hxy =>
    cases hbc with
    | date hyz => exact .date (Std.TransCmp.lt_trans hxy hyz)
    | number hb => cases hb
  | string hxy =>
    cases hbc with
    | string hyz => exact .string (Std.TransCmp.lt_trans hxy hyz)
    | number hb => cases hb
  | number ha hb hmn =>
    cases hbc with
    | boolean | date | string => cases hb
    | number hb' hc hnk =>
      cases hb.symm.trans hb'
      exact .number ha hc (Number.compare?_lt_trans hmn hnk)

/-- **To be below is transitive**, for numbers across their types. -/
theorem compare?_lt_trans (hab : a.compare? b = some .lt) (hbc : b.compare? c = some .lt) :
    a.compare? c = some .lt := by
  rw [compare?_eq_some_iff] at *
  exact hab.lt_trans hbc

/-- Nothing is below itself. -/
theorem compare?_self_ne_lt (a : Bson) : a.compare? a ≠ some .lt := by
  intro h
  have hswap := compare?_swap a a
  rw [h] at hswap
  cases hswap

/-! ## 4. Agreement and order -/

/-- A value without parts agrees with what it compares as equal to. -/
theorem agrees_iff_compare? (ha : a.Ordered) : a.agrees b = true ↔ a.compare? b = some .eq := by
  cases hm : a.number? with
  | some m =>
    rw [agrees_of_number_left hm, compare?_of_number_left hm]
    cases b.number? with
    | none => simp
    | some n => exact Number.agrees_iff
  | none =>
    cases a with
    | boolean x | string x =>
      cases b <;> simp [agrees, agreesPlain, number?, same, compare?,
        Std.LawfulEqCmp.compare_eq_iff_eq]
    | date x =>
      cases b <;> simp [agrees, agreesPlain, number?, same, compare?,
        Std.LawfulEqCmp.compare_eq_iff_eq, Int64.toInt_inj]
    | int32 _ | int64 _ | double _ => cases hm
    | _ => exact absurd ha Bool.false_ne_true

end Bson

end Dossier
