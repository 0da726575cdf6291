/-
# Stretches that a plan takes

A plan takes a set of places to a set of places, and such sets are numbers.  Here a plan is said to
take stretches, each from a place to a place (`Plan.Takes`): whatever places it is given, it reaches
the ends of its stretches from there.  So plans are spoken of by relations.  That of steps says
which characters stand where, that of an assertion that it holds in a place, and that of a sequence
is the composition of those of its parts.

A text has a match exactly if some stretch is taken (`Regex.isMatch_iff`).
-/
import Dossier.Regex.Image
import Mathlib.Algebra.Order.Group.Nat
import Mathlib.Data.Nat.SuccPred

namespace Dossier

/-! ## 1. Places of characters and assertions -/

namespace Subject

theorem getD_lookup_addPlace (c d : Char) (place : Nat) (known : List (Char × Nat)) :
    ((addPlace c place known).lookup d).getD 0 =
      if d = c then (known.lookup d).getD 0 ||| place else (known.lookup d).getD 0 := by
  induction known with
  | nil =>
    rw [addPlace, List.lookup_cons]
    by_cases h : d = c
    · rw [if_pos h, h, beq_self_eq_true, List.lookup_nil, Option.getD_none, Nat.zero_or]
      rfl
    · rw [if_neg h, beq_false_of_ne h]
  | cons entry rest ih =>
    obtain ⟨e, places⟩ := entry
    rw [addPlace]
    by_cases hce : c = e
    · subst hce
      rw [if_pos rfl, List.lookup_cons, List.lookup_cons]
      by_cases h : d = c
      · rw [if_pos h, h, beq_self_eq_true]
        rfl
      · rw [if_neg h, beq_false_of_ne h]
    · rw [if_neg hce, List.lookup_cons, List.lookup_cons]
      by_cases hde : d = e
      · subst hde
        rw [beq_self_eq_true]
        exact (if_neg (Ne.symm hce)).symm
      · rw [beq_false_of_ne hde]
        exact ih

/-- The places of the characters from some place on are added to those before them. -/
theorem testBit_places (t : List Char) (known : List (Char × Nat)) (k : Nat) (c : Char) (i : Nat) :
    ((((t.foldl (fun (known, place) c => (addPlace c place known, 2 * place))
      (known, 2 ^ k)).1).lookup c).getD 0).testBit i = true ↔
        ((known.lookup c).getD 0).testBit i = true ∨ ∃ n, i = k + n ∧ t[n]? = some c := by
  induction t generalizing known k with
  | nil => simp
  | cons d rest ih =>
    have hfirst : (∃ n, i = k + n ∧ (d :: rest)[n]? = some c) ↔
        i = k ∧ c = d ∨ ∃ n, i = k + 1 + n ∧ rest[n]? = some c := by
      constructor
      · rintro ⟨_ | n, hi, hn⟩
        · exact Or.inl ⟨hi, (Option.some.inj hn).symm⟩
        · exact Or.inr ⟨n, by omega, hn⟩
      · rintro (⟨rfl, rfl⟩ | ⟨n, hi, hn⟩)
        · exact ⟨0, rfl, rfl⟩
        · exact ⟨n + 1, by omega, hn⟩
    rw [List.foldl_cons]
    dsimp only
    rw [← Nat.pow_succ', ih, getD_lookup_addPlace, hfirst]
    by_cases hcd : c = d
    · rw [if_pos hcd, Nat.testBit_or, Bool.or_eq_true, Nat.testBit_two_pow, decide_eq_true_iff,
        and_iff_left hcd, or_assoc, eq_comm (a := k)]
    · rw [if_neg hcd, iff_false_intro (fun h => hcd h.2 : ¬(i = k ∧ c = d)), false_or]

/-- The places before a character are those where it stands. -/
theorem testBit_before (t : List Char) (c : Char) (i : Nat) :
    ((ofText t).before c).testBit i = true ↔ t[i]? = some c := by
  refine (testBit_places t [] 0 c i).trans ?_
  simp

theorem testBit_two_mul_add (n : Nat) (b : Bool) (i : Nat) :
    (2 * n + b.toNat).testBit i = if i = 0 then b else n.testBit (i - 1) := by
  cases i with
  | zero => cases b <;> simp [Nat.testBit_zero]
  | succ i =>
    have hhalf : (2 * n + b.toNat) / 2 = n := by
      have := b.toNat_lt
      omega
    rw [Nat.testBit_succ, hhalf]
    rfl

/-- An assertion holds in a place by the characters around it. -/
theorem testBit_lookPlaces (assertion : Look) (previous : Option Char) (t : List Char) (i : Nat) :
    (lookPlaces assertion previous t).testBit i = true ↔
      i ≤ t.length ∧ assertion.holds (if i = 0 then previous else t[i - 1]?) t[i]? = true := by
  induction t generalizing previous i with
  | nil =>
    have hbit := testBit_two_mul_add 0 (assertion.holds previous none) i
    rw [Nat.mul_zero, Nat.zero_add] at hbit
    rw [lookPlaces, hbit]
    cases i with
    | zero => simp
    | succ i => simp
  | cons c rest ih =>
    rw [lookPlaces, testBit_two_mul_add]
    cases i with
    | zero => simp
    | succ i =>
      rw [if_neg (Nat.succ_ne_zero i), if_neg (Nat.succ_ne_zero i), Nat.add_sub_cancel, ih,
        List.length_cons, Nat.add_le_add_iff_right, List.getElem?_cons_succ]
      cases i with
      | zero => rfl
      | succ i => rfl

end Subject

/-! ## 2. Stretches -/

namespace Plan

/-- The plan takes the stretches of a relation. -/
def Takes (p : Plan) (R : Nat → Nat → Prop) : Prop :=
  ∀ fuel number s begun j, (p.spread fuel number s begun).1.testBit j = true ↔
    ∃ i, s.testBit i = true ∧ R i j

variable {a b p : Plan} {R S : Nat → Nat → Prop}

theorem Takes.congr (h : p.Takes R) (heq : ∀ i j, R i j ↔ S i j) : p.Takes S := by
  intro fuel number s begun j
  rw [h fuel number s begun j]
  exact exists_congr fun i => and_congr_right fun _ => heq i j

theorem takes_keep (places : Nat) :
    (keep places).Takes fun i j => j = i ∧ places.testBit i = true := by
  intro fuel number s begun j
  rw [spread, Nat.testBit_and, Bool.and_eq_true]
  constructor
  · rintro ⟨hs, hplaces⟩
    exact ⟨j, hs, rfl, hplaces⟩
  · rintro ⟨i, hs, rfl, hplaces⟩
    exact ⟨hs, hplaces⟩

theorem testBit_stepsFrom (places : List Nat) (s j : Nat) :
    (stepsFrom places s).testBit j = true ↔ ∃ i, s.testBit i = true ∧ j = i + places.length ∧
      ∀ (k : Nat) (h : k < places.length), places[k].testBit (i + k) = true := by
  induction places generalizing s with
  | nil => simp [stepsFrom]
  | cons first rest ih =>
    rw [stepsFrom]
    by_cases hs : s = 0
    · subst hs
      rw [if_pos rfl]
      simp
    · rw [if_neg hs, ih]
      constructor
      · rintro ⟨i, hi, hj, hrest⟩
        rw [Nat.testBit_shiftLeft, Nat.testBit_and, Bool.and_eq_true, Bool.and_eq_true,
          decide_eq_true_iff] at hi
        obtain ⟨hpos, hsi, hfirst⟩ := hi
        refine ⟨i - 1, hsi, by rw [List.length_cons]; omega, fun k hk => ?_⟩
        cases k with
        | zero => exact hfirst
        | succ k =>
          have hbit := hrest k (Nat.lt_of_succ_lt_succ hk)
          rwa [show i + k = i - 1 + (k + 1) by omega] at hbit
      · rintro ⟨i, hsi, hj, hall⟩
        refine ⟨i + 1, ?_, by rw [List.length_cons] at hj; omega, fun k hk => ?_⟩
        · have hfirst := hall 0 (Nat.succ_pos _)
          simpa [Nat.testBit_shiftLeft, Nat.testBit_and, hsi] using hfirst
        · have hbit := hall (k + 1) (Nat.succ_lt_succ hk)
          rwa [show i + (k + 1) = i + 1 + k by omega] at hbit

theorem takes_steps (places : List Nat) :
    (steps places).Takes fun i j => j = i + places.length ∧
      ∀ (k : Nat) (h : k < places.length), places[k].testBit (i + k) = true :=
  fun _ _ s _ j => testBit_stepsFrom places s j

theorem Takes.seq (ha : a.Takes R) (hb : b.Takes S) (width : Nat) :
    (Plan.seq a b width).Takes (Relation.Comp R S) := by
  intro fuel number s begun j
  have hfirst := ha fuel number s begun
  rw [spread]
  generalize a.spread fuel number s begun = reached at hfirst
  obtain ⟨middle, begun'⟩ := reached
  dsimp only at hfirst ⊢
  by_cases hmiddle : middle = 0
  · subst hmiddle
    rw [if_pos rfl, Nat.zero_testBit]
    refine iff_of_false Bool.false_ne_true ?_
    rintro ⟨i, hi, m, hR, -⟩
    have hm := (hfirst m).mpr ⟨i, hi, hR⟩
    rw [Nat.zero_testBit] at hm
    cases hm
  · rw [if_neg hmiddle, hb]
    constructor
    · rintro ⟨m, hm, hS⟩
      obtain ⟨i, hi, hR⟩ := (hfirst m).mp hm
      exact ⟨i, hi, m, hR, hS⟩
    · rintro ⟨i, hi, m, hR, hS⟩
      exact ⟨m, (hfirst m).mpr ⟨i, hi, hR⟩, hS⟩

end Plan

namespace Regex

open Plan

variable (t : List Char)

theorem takes_empty : (empty.plan (.ofText t)).Takes fun i j => j = i :=
  (takes_steps []).congr fun i j => by simp

/-- A text takes the stretches where it stands. -/
theorem takes_literal (text : List Char) :
    ((literal text).plan (.ofText t)).Takes fun i j =>
      j = i + text.length ∧ text <+: t.drop i := by
  refine (takes_steps (text.map (Subject.ofText t).before)).congr fun i j => ?_
  rw [List.prefix_iff_getElem?]
  simp only [List.length_map, List.getElem_map, Subject.testBit_before, List.getElem?_drop]

theorem takes_textStart : ((look .textStart).plan (.ofText t)).Takes fun i j => j = i ∧ i = 0 := by
  refine (takes_keep _).congr fun i j => and_congr_right fun _ => ?_
  rw [Subject.testBit_lookPlaces, Look.holds]
  constructor
  · rintro ⟨hi, hnone⟩
    by_contra hpos
    rw [if_neg hpos, Option.isNone_iff_eq_none, List.getElem?_eq_none_iff] at hnone
    have : (Subject.ofText t).text = t := rfl
    omega
  · rintro rfl
    exact ⟨Nat.zero_le _, rfl⟩

theorem takes_textEnd :
    ((look .textEnd).plan (.ofText t)).Takes fun i j => j = i ∧ i = t.length := by
  refine (takes_keep _).congr fun i j => and_congr_right fun _ => ?_
  rw [Subject.testBit_lookPlaces, Look.holds, Option.isNone_iff_eq_none,
    List.getElem?_eq_none_iff]
  exact Nat.le_antisymm_iff.symm

variable {t}

/-- **A text has a match exactly if some stretch of it is taken.** -/
theorem isMatch_iff {r : Regex} {R : Nat → Nat → Prop} (h : (r.plan (.ofText t)).Takes R) :
    r.isMatch t = true ↔ ∃ i j, i ≤ t.length ∧ R i j := by
  have hbits (i : Nat) : (1 <<< (t.length + 1) - 1).testBit i = true ↔ i ≤ t.length := by
    rw [Nat.one_shiftLeft, Nat.testBit_two_pow_sub_one, decide_eq_true_iff, Nat.lt_succ_iff]
  unfold isMatch
  rw [bne_iff_ne]
  constructor
  · intro hne
    obtain ⟨j, hj⟩ := Nat.exists_testBit_of_ne_zero hne
    obtain ⟨i, hi, hR⟩ := (h _ _ _ _ j).mp hj
    exact ⟨i, j, (hbits i).mp hi, hR⟩
  · rintro ⟨i, j, hi, hR⟩ hzero
    have hj := (h (t.length + 2) 0 (1 <<< (t.length + 1) - 1)
      (Array.replicate (r.plan (.ofText t)).width 0) j).mpr ⟨i, (hbits i).mpr hi, hR⟩
    rw [hzero, Nat.zero_testBit] at hj
    cases hj

end Regex

end Dossier
