/-
# Numbers that JSON has

The reader of JSON keeps a whole number of 64 bits as it is and makes a double of any other number.
Of what the text says of doubles beyond the range, nothing becomes infinite: too large a number is
none, and a power of ten that is divided by leads away from the end of the range.

Main statement: `Json.numbersInRange_of_parse?`, for values of any depth.
-/
import Dossier.Json.Reader
import Dossier.Proofs.Double.Finite

namespace Dossier

namespace Json

mutual

/-- The numbers in the value are ones that JSON values have: whole ones of 64 bits, signed or not,
and finite doubles. -/
def NumbersInRange : Json → Prop
  | .whole n => Int64.minValue.toInt ≤ n ∧ n < UInt64.size
  | .double x => x.IsFinite
  | .array items => ItemNumbersInRange items
  | .object members => MemberNumbersInRange members
  | _ => True

def ItemNumbersInRange : List Json → Prop
  | [] => True
  | item :: rest => item.NumbersInRange ∧ ItemNumbersInRange rest

def MemberNumbersInRange : List (String × Json) → Prop
  | [] => True
  | (_, value) :: rest => value.NumbersInRange ∧ MemberNumbersInRange rest

end

theorem MemberNumbersInRange.member? {members : List (String × Json)}
    (h : MemberNumbersInRange members) {key : String} {v : Json}
    (hv : Json.member? members key = some v) : v.NumbersInRange := by
  induction members with
  | nil => cases hv
  | cons entry rest ih =>
    obtain ⟨k, w⟩ := entry
    obtain ⟨hw, hrest⟩ := h
    rw [Json.member?] at hv
    split at hv
    · cases hv
      exact hw
    · exact ih hrest hv

theorem MemberNumbersInRange.setMember {members : List (String × Json)}
    (h : MemberNumbersInRange members) (key : String) {v : Json} (hv : v.NumbersInRange) :
    MemberNumbersInRange (Json.setMember members key v) := by
  induction members with
  | nil => exact ⟨hv, trivial⟩
  | cons entry rest ih =>
    obtain ⟨k, w⟩ := entry
    obtain ⟨hw, hrest⟩ := h
    rw [Json.setMember]
    split
    · exact ⟨hv, hrest⟩
    · exact ⟨hw, ih hrest⟩

/-! ## 1. Single numbers -/

/-- The digits that are taken make a number of 64 bits. -/
theorem takeDigits_lt {n : ℕ} (hn : n < UInt64.size) (digits : List Char) :
    (takeDigits n digits).1 < UInt64.size := by
  fun_induction takeDigits n digits with
  | case1 => exact hn
  | case2 n c s next hnext ih => exact ih hnext
  | case3 => exact hn

/-- Powers of ten lead from finite doubles to finite ones, or to none. -/
theorem isFinite_of_timesPower {fuel : ℕ} {x : Double} (hx : x.IsFinite) {g : ℤ} {y : Double}
    (h : timesPower fuel x g = some y) : y.IsFinite := by
  -- Dividing leads away from the end of the range, so only a product has to be looked at.
  fun_induction timesPower fuel x g with
  | case1 x g => exact Option.some.inj h ▸ hx
  | case2 fuel x g hsmall power hneg =>
    cases h
    exact hx.div (Double.magnitude_four_le_power (by omega))
  | case3 => cases h
  | case4 fuel x g hsmall power hpos hfinite =>
    cases h
    exact Double.isFinite_iff.mpr ⟨Double.isNaN_ofRatio _ _ _, Bool.eq_false_iff.mpr hfinite⟩
  | case5 fuel x g hlarge hzero => exact Option.some.inj h ▸ hx
  | case6 fuel x g hlarge hzero hneg ih =>
    exact ih (hx.div (Double.magnitude_four_le_power (by decide))) h
  | case7 => cases h

/-- **A number that is read has 64 bits or is a finite double.** -/
theorem numbersInRange_of_ofParts {negative : Bool} {integral fraction : List Char}
    {exponent : Option ℤ} {j : Json} (h : ofParts negative integral fraction exponent = some j) :
    j.NumbersInRange := by
  unfold ofParts at h
  have hleading := takeDigits_lt (by decide : 0 < UInt64.size) integral
  have hdigits := takeDigits_lt hleading fraction
  dsimp only at h
  generalize hvalue : (if negative = true then -((takeDigits 0 integral).1 : ℤ)
    else (takeDigits 0 integral).1) = value at h
  split at h
  · next hwhole =>
    cases h
    simp only [Bool.and_eq_true, decide_eq_true_eq] at hwhole
    have hle : value ≤ (takeDigits 0 integral).1 := by
      rw [← hvalue]
      split <;> omega
    exact ⟨hwhole.2, Int.lt_of_le_of_lt hle (Int.ofNat_lt.mpr hleading)⟩
  · obtain ⟨x, hx, rfl⟩ := Option.map_eq_some_iff.mp h
    have hdouble := Double.isFinite_ofInt (n := (_ : ℕ)) hdigits
    have hfinite : x.IsFinite := isFinite_of_timesPower hdouble hx
    unfold NumbersInRange Double.IsFinite at *
    rwa [Double.magnitude_ofMagnitude (Nat.lt_trans hfinite (by decide))]

theorem numbersInRange_of_readNumber {s rest : List Char} {j : Json}
    (h : readNumber s = some (j, rest)) : j.NumbersInRange := by
  simp only [readNumber, Option.bind_eq_bind, Option.bind_eq_some_iff, Option.map_eq_some_iff] at h
  obtain ⟨_, _, _, _, _, _, _, hparts, hj⟩ := h
  cases hj
  exact numbersInRange_of_ofParts hparts

/-! ## 2. Values -/

/-- What each of the readers of values keeps, whatever its bound. -/
structure KeepsRange (fuel : ℕ) : Prop where
  value {s rest : List Char} {j : Json} (h : readValue fuel s = some (j, rest)) : j.NumbersInRange
  items {s rest : List Char} {items : List Json} (h : readItems fuel s = some (items, rest)) :
    ItemNumbersInRange items
  members {before members : List (String × Json)} {s rest : List Char}
    (hbefore : MemberNumbersInRange before)
    (h : readMembers fuel before s = some (members, rest)) : MemberNumbersInRange members

theorem KeepsRange.zero : KeepsRange 0 where
  value h := by cases h
  items h := by cases h
  members _ h := by cases h

/-- A value that is made of what a reader gives. -/
theorem numbersInRange_of_map {α : Type} {outcome : Option α} {make : α → Json × List Char}
    {j : Json} {rest : List Char} (h : outcome.map make = some (j, rest))
    (hmake : ∀ a, outcome = some a → (make a).1.NumbersInRange) : j.NumbersInRange := by
  obtain ⟨a, ha, hj⟩ := Option.map_eq_some_iff.mp h
  have hrange := hmake a ha
  rwa [hj] at hrange

theorem KeepsRange.readValue_succ {fuel : ℕ} (ih : KeepsRange fuel) {s rest : List Char} {j : Json}
    (h : readValue (fuel + 1) s = some (j, rest)) : j.NumbersInRange := by
  unfold readValue at h
  split at h
  · exact numbersInRange_of_map h fun _ _ => trivial
  · split at h
    · cases h
      trivial
    · exact numbersInRange_of_map h fun _ hitems => ih.items hitems
  · split at h
    · cases h
      trivial
    · have hnone : MemberNumbersInRange [] := trivial
      exact numbersInRange_of_map h fun _ hmembers => ih.members hnone hmembers
  · exact numbersInRange_of_map h fun _ _ => trivial
  · exact numbersInRange_of_map h fun _ _ => trivial
  · exact numbersInRange_of_map h fun _ _ => trivial
  · exact numbersInRange_of_readNumber h

theorem KeepsRange.readItems_succ {fuel : ℕ} (ih : KeepsRange fuel) {s rest : List Char}
    {items : List Json} (h : readItems (fuel + 1) s = some (items, rest)) :
    ItemNumbersInRange items := by
  simp only [readItems, Option.bind_eq_bind, Option.bind_eq_some_iff] at h
  obtain ⟨⟨item, after⟩, hitem, h⟩ := h
  split at h
  · obtain ⟨⟨others, _⟩, hothers, hj⟩ := Option.bind_eq_some_iff.mp h
    cases hj
    exact ⟨ih.value hitem, ih.items hothers⟩
  · cases h
    exact ⟨ih.value hitem, trivial⟩
  · cases h

theorem KeepsRange.readMembers_succ {fuel : ℕ} (ih : KeepsRange fuel)
    {before members : List (String × Json)} {s rest : List Char}
    (hbefore : MemberNumbersInRange before)
    (h : readMembers (fuel + 1) before s = some (members, rest)) :
    MemberNumbersInRange members := by
  unfold readMembers at h
  split at h
  · simp only [Option.bind_eq_bind, Option.bind_eq_some_iff] at h
    obtain ⟨⟨key, _⟩, -, _, -, ⟨value, _⟩, hvalue, h⟩ := h
    have hset := hbefore.setMember key (ih.value hvalue)
    split at h
    · exact ih.members hset h
    · cases h
      exact hset
    · cases h
  · cases h

theorem keepsRange (fuel : ℕ) : KeepsRange fuel := by
  induction fuel with
  | zero => exact .zero
  | succ fuel ih => exact ⟨ih.readValue_succ, ih.readItems_succ, ih.readMembers_succ⟩

/-- **All numbers of a JSON text come out as ones that JSON values have**, at whatever depth. -/
theorem numbersInRange_of_parse? {text : String} {j : Json} (h : parse? text = some j) :
    j.NumbersInRange := by
  simp only [parse?, Option.bind_eq_bind, Option.bind_eq_some_iff] at h
  obtain ⟨⟨value, _⟩, hvalue, h⟩ := h
  split at h
  · cases h
    exact (keepsRange _).value hvalue
  · cases h

end Json

end Dossier
