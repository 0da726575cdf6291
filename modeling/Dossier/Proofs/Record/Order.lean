/-
# The order of values

The items of a set are kept in the order of values.  It goes by kinds first, and inside a kind by
what the value holds; sequences and records are compared item by item, to any depth.  It is an order
(`Value.compare` is `Std.TransCmp`): what is proved of three values is proved of the three
comparisons between them (`Chained`), and that is kept when a second comparison decides where the
first does not (`Chained.andThen`).

Two values of a type in which there are no doubles are equal in the order only if they are equal
(`HasType.eq_of_compare`).  Doubles do not belong in sets, as the two zeros share a place.

Main statements: `isSetOf_sortDistinct` and `IsSetOf.unique`.  Putting items in order, each once,
gives a list that is in order and has the same items, and of items without doubles there is only one
such list.
-/
import Dossier.Proofs.Record.Keeping
import Mathlib.Data.List.Forall2
import Mathlib.Data.List.Nodup
import Mathlib.Data.String.Basic

namespace Dossier

/-! ## 1. Three comparisons -/

/-- The comparisons of three values, of the first with the second, of the second with the third and
of the first with the third, as they are in an order. -/
structure Chained (ab bc ac : Ordering) : Prop where
  lt_trans : ab = .lt → bc = .lt → ac = .lt
  congr_left : ab = .eq → ac = bc
  congr_right : bc = .eq → ac = ab

theorem Chained.of_transCmp {α : Type} (cmp : α → α → Ordering) [Std.TransCmp cmp] (a b c : α) :
    Chained (cmp a b) (cmp b c) (cmp a c) where
  lt_trans := Std.TransCmp.lt_trans
  congr_left := Std.TransCmp.congr_left
  congr_right h := (Std.TransCmp.congr_right h).symm

/-- A second comparison can decide where the first finds all three values equal. -/
theorem Chained.andThen {ab bc ac ab' bc' ac' : Ordering} (h : Chained ab bc ac)
    (h' : ab = .eq → bc = .eq → Chained ab' bc' ac') :
    Chained (ab.then ab') (bc.then bc') (ac.then ac') where
  lt_trans hab hbc := by
    rw [Ordering.then_eq_lt] at hab hbc ⊢
    obtain hab | ⟨hab, hab'⟩ := hab <;> obtain hbc | ⟨hbc, hbc'⟩ := hbc
    · exact .inl (h.lt_trans hab hbc)
    · exact .inl ((h.congr_right hbc).trans hab)
    · exact .inl ((h.congr_left hab).trans hbc)
    · exact .inr ⟨(h.congr_left hab).trans hbc, (h' hab hbc).lt_trans hab' hbc'⟩
  congr_left hab := by
    obtain ⟨hab, hab'⟩ := Ordering.then_eq_eq.mp hab
    rw [h.congr_left hab]
    cases bc with
    | eq => exact (h' hab rfl).congr_left hab'
    | lt => rfl
    | gt => rfl
  congr_right hbc := by
    obtain ⟨hbc, hbc'⟩ := Ordering.then_eq_eq.mp hbc
    rw [h.congr_right hbc]
    cases ab with
    | eq => exact (h' rfl hbc).congr_right hbc'
    | lt => rfl
    | gt => rfl

theorem Chained.isLE_trans {ab bc ac : Ordering} (h : Chained ab bc ac) (hab : ab.isLE = true)
    (hbc : bc.isLE = true) : ac.isLE = true := by
  cases ab with
  | gt => cases hab
  | eq => rwa [h.congr_left rfl]
  | lt =>
    cases bc with
    | gt => cases hbc
    | eq => rwa [h.congr_right rfl]
    | lt => rw [h.lt_trans rfl rfl]; rfl

instance : Std.TransCmp Instant.compare :=
  inferInstanceAs (Std.TransCmp (compareLex (compareOn Instant.seconds) (compareOn Instant.nanos)))

instance : Std.TransCmp Timestamp.compare :=
  inferInstanceAs (Std.TransCmp (compareLex (compareOn fun t : Timestamp => t.seconds.toInt)
    (compareOn fun t : Timestamp => t.nanos.toInt)))

theorem Instant.compare_eq_eq_iff {s t : Instant} : compare s t = .eq ↔ s = t := by
  unfold compare
  rw [Ordering.then_eq_eq, Std.LawfulEqCmp.compare_eq_iff_eq, Std.LawfulEqCmp.compare_eq_iff_eq]
  cases s
  cases t
  simp

namespace Value

/-! ## 2. Kinds and parts -/

/-- The items of a sequence, or the fields of a record. -/
def parts : Value → List Value
  | .seq items => items
  | .record fields => fields
  | _ => []

/-- What holds of a value if it holds of its parts holds of every value. -/
theorem partsInduction {motive : Value → Prop}
    (step : ∀ value, (∀ part ∈ value.parts, motive part) → motive value) (value : Value) :
    motive value := by
  refine step value fun part hpart => ?_
  have hsmaller : sizeOf part < sizeOf value := by
    cases value with
    | seq items =>
      have hitem : sizeOf part < sizeOf items := List.sizeOf_lt_of_mem hpart
      rw [seq.sizeOf_spec]
      omega
    | record fields =>
      have hfield : sizeOf part < sizeOf fields := List.sizeOf_lt_of_mem hpart
      rw [record.sizeOf_spec]
      omega
    | _ => cases hpart
  exact partsInduction step part
termination_by sizeOf value

/-- Two values of one kind. -/
inductive SameKind : Value → Value → Prop where
  | null : SameKind .null .null
  | bool (a b : Bool) : SameKind (.bool a) (.bool b)
  | int32 (a b : Int32) : SameKind (.int32 a) (.int32 b)
  | int64 (a b : Int64) : SameKind (.int64 a) (.int64 b)
  | double (a b : Double) : SameKind (.double a) (.double b)
  | string (a b : String) : SameKind (.string a) (.string b)
  | instant (a b : Instant) : SameKind (.instant a) (.instant b)
  | timestamp (a b : Timestamp) : SameKind (.timestamp a) (.timestamp b)
  | date (a b : Int64) : SameKind (.date a) (.date b)
  | seq (as bs : List Value) : SameKind (.seq as) (.seq bs)
  | record (as bs : List Value) : SameKind (.record as) (.record bs)
  | custom (a b : CustomValue) : SameKind (.custom a) (.custom b)

/-- Values of one rank are of one kind. -/
theorem sameKind_of_rank_eq {a b : Value} (h : a.rank = b.rank) : SameKind a b := by
  cases a <;> cases b <;> first | constructor | cases h

/-- Kinds come first in the order. -/
theorem compare_of_rank_ne {a b : Value} (h : a.rank ≠ b.rank) :
    compare a b = Ord.compare a.rank b.rank := by
  cases a <;> cases b <;> first | rfl | exact absurd rfl h

/-! ## 3. It is an order -/

theorem compareAll_eq_swap {as bs : List Value}
    (h : ∀ a ∈ as, ∀ b, compare a b = (compare b a).swap) :
    compareAll as bs = (compareAll bs as).swap := by
  induction as generalizing bs with
  | nil => cases bs <;> rfl
  | cons a as ih =>
    obtain ⟨hfirst, hrest⟩ := List.forall_mem_cons.mp h
    cases bs with
    | nil => rfl
    | cons b bs => rw [compareAll, compareAll, Ordering.swap_then, hfirst b, ih hrest]

theorem compareAll_chained {as bs cs : List Value}
    (h : ∀ a ∈ as, ∀ b c, Chained (compare a b) (compare b c) (compare a c)) :
    Chained (compareAll as bs) (compareAll bs cs) (compareAll as cs) := by
  induction as generalizing bs cs with
  | nil => cases bs <;> cases cs <;> constructor <;> simp [compareAll]
  | cons a as ih =>
    obtain ⟨hfirst, hrest⟩ := List.forall_mem_cons.mp h
    cases bs with
    | nil => cases cs <;> constructor <;> simp [compareAll]
    | cons b bs =>
      cases cs with
      | nil => constructor <;> simp [compareAll]
      | cons c cs =>
        rw [compareAll, compareAll, compareAll]
        exact (hfirst b c).andThen fun _ _ => ih hrest

theorem compare_eq_swap (a b : Value) : compare a b = (compare b a).swap := by
  induction a using partsInduction generalizing b with
  | step a ih =>
    by_cases hrank : a.rank = b.rank
    · cases sameKind_of_rank_eq hrank with
      | null => rfl
      | bool a b => exact @Std.OrientedCmp.eq_swap Bool Ord.compare _ a b
      | int32 a b => exact @Std.OrientedCmp.eq_swap Int32 (compareOn Int32.toInt) _ a b
      | int64 a b => exact @Std.OrientedCmp.eq_swap Int64 (compareOn Int64.toInt) _ a b
      | double a b => exact @Std.OrientedCmp.eq_swap Double (compareOn Double.rank) _ a b
      | string a b => exact @Std.OrientedCmp.eq_swap String Ord.compare _ a b
      | instant a b => exact @Std.OrientedCmp.eq_swap Instant Instant.compare _ a b
      | timestamp a b => exact @Std.OrientedCmp.eq_swap Timestamp Timestamp.compare _ a b
      | date a b => exact @Std.OrientedCmp.eq_swap Int64 (compareOn Int64.toInt) _ a b
      | seq as bs => exact compareAll_eq_swap ih
      | record as bs => exact compareAll_eq_swap ih
      | custom a b =>
        exact @Std.OrientedCmp.eq_swap CustomValue (compareOn CustomValue.handle) _ a b
    · rw [compare_of_rank_ne hrank, compare_of_rank_ne (Ne.symm hrank)]
      exact Std.OrientedCmp.eq_swap

/-- The comparison of ranks decides, unless they are the same. -/
theorem compare_eq_then (a b : Value) :
    compare a b = (Ord.compare a.rank b.rank).then (compare a b) := by
  by_cases hrank : a.rank = b.rank
  · rw [Nat.compare_eq_eq.mpr hrank, Ordering.eq_then]
  · rw [compare_of_rank_ne hrank]
    cases Ord.compare a.rank b.rank <;> rfl

theorem compare_chained (a b c : Value) :
    Chained (compare a b) (compare b c) (compare a c) := by
  induction a using partsInduction generalizing b c with
  | step a ih =>
    rw [compare_eq_then a b, compare_eq_then b c, compare_eq_then a c]
    refine (Chained.of_transCmp Ord.compare a.rank b.rank c.rank).andThen fun hab hbc => ?_
    -- Values of one rank are compared by what they hold.
    cases sameKind_of_rank_eq (Nat.compare_eq_eq.mp hab) <;>
      cases sameKind_of_rank_eq (Nat.compare_eq_eq.mp hbc)
    case null.null => exact ⟨nofun, fun _ => rfl, fun _ => rfl⟩
    case bool.bool a b c => exact .of_transCmp (Ord.compare : Bool → Bool → Ordering) a b c
    case int32.int32 a b c => exact .of_transCmp (compareOn Int32.toInt) a b c
    case int64.int64 a b c => exact .of_transCmp (compareOn Int64.toInt) a b c
    case double.double a b c => exact .of_transCmp (compareOn Double.rank) a b c
    case string.string a b c => exact .of_transCmp (Ord.compare : String → String → Ordering) a b c
    case instant.instant a b c => exact .of_transCmp Instant.compare a b c
    case timestamp.timestamp a b c => exact .of_transCmp Timestamp.compare a b c
    case date.date a b c => exact .of_transCmp (compareOn Int64.toInt) a b c
    case seq.seq as bs cs => exact compareAll_chained ih
    case record.record as bs cs => exact compareAll_chained ih
    case custom.custom a b c => exact .of_transCmp (compareOn CustomValue.handle) a b c

instance : Std.TransCmp Value.compare where
  eq_swap := compare_eq_swap _ _
  isLE_trans := (compare_chained _ _ _).isLE_trans

/-! ## 4. Equal in the order -/

theorem eq_null_of_compare {value : Value} (h : compare .null value = .eq) : value = .null := by
  cases value <;> first | rfl | cases h

/-- Two lists that go with the same third one go with each other. -/
theorem forall₂_of_common {α β γ : Type} {P : γ → α → Prop} {Q : γ → β → Prop} {R : α → β → Prop}
    {cs : List γ} {as : List α} {bs : List β} (has : List.Forall₂ P cs as)
    (hbs : List.Forall₂ Q cs bs) (h : ∀ c ∈ cs, ∀ a b, P c a → Q c b → R a b) :
    List.Forall₂ R as bs := by
  induction has generalizing bs with
  | nil =>
    cases hbs
    exact .nil
  | cons ha _ ih =>
    cases hbs with
    | cons hb hbs =>
      obtain ⟨hfirst, hrest⟩ := List.forall_mem_cons.mp h
      exact .cons (hfirst _ _ ha hb) (ih hbs hrest)

theorem length_eq_of_compareAll {as bs : List Value} (h : compareAll as bs = .eq) :
    as.length = bs.length := by
  induction as generalizing bs with
  | nil => cases bs <;> first | rfl | cases h
  | cons a as ih =>
    cases bs with
    | nil => cases h
    | cons b bs =>
      rw [compareAll, Ordering.then_eq_eq] at h
      rw [List.length_cons, List.length_cons, ih h.2]

/-- Items are equal in the order only if they are equal, if that is so of each. -/
theorem eq_of_compareAll {as bs : List Value}
    (h : List.Forall₂ (fun a b => compare a b = .eq → a = b) as bs)
    (hcompare : compareAll as bs = .eq) : as = bs := by
  induction h with
  | nil => rfl
  | cons hfirst _ ih =>
    rw [compareAll, Ordering.then_eq_eq] at hcompare
    rw [hfirst hcompare.1, ih hcompare.2]

/-- Items are equal in the order only if they are equal, if that is so of any two of them. -/
theorem eq_of_compareAll_of_mem {as bs : List Value}
    (h : ∀ a ∈ as, ∀ b ∈ bs, compare a b = .eq → a = b) (hcompare : compareAll as bs = .eq) :
    as = bs := by
  refine eq_of_compareAll (List.forall₂_iff_zip.mpr ⟨length_eq_of_compareAll hcompare, ?_⟩) hcompare
  intro a b hmem
  exact h a (List.of_mem_zip hmem).1 b (List.of_mem_zip hmem).2

theorem Plain.eq_of_compare {type : FieldType} {a b : Value} (ha : Plain type a)
    (hb : Plain type b) (hdouble : type ≠ .double) (h : compare a b = .eq) : a = b := by
  cases ha <;> cases hb <;> rw [Value.compare] at h
  case bool.bool => rw [Std.LawfulEqCmp.eq_of_compare h]
  case int32.int32 => rw [Int32.toInt_inj.mp (Std.LawfulEqCmp.eq_of_compare h)]
  case int64.int64 => rw [Int64.toInt_inj.mp (Std.LawfulEqCmp.eq_of_compare h)]
  case double.double => exact absurd rfl hdouble
  case string.string => rw [Std.LawfulEqCmp.eq_of_compare h]
  case instant.instant => rw [Instant.compare_eq_eq_iff.mp h]
  case timestamp.timestamp => rw [Timestamp.compare_eq_eq_iff.mp h]
  case date.date => rw [Int64.toInt_inj.mp (Std.LawfulEqCmp.eq_of_compare h)]

section

variable {types : Schema}

/-- **Values of a type without doubles are equal in the order only if they are equal.** -/
theorem HasType.eq_of_compare {type : FieldType} {a b : Value} (ha : HasType types type a)
    (hb : HasType types type b) (hdouble : ¬ type.Contains types .double)
    (h : compare a b = .eq) : a = b := by
  induction ha using HasType.induction generalizing b with
  | plain ha =>
    cases hb with
    | plain hb => exact ha.eq_of_compare hb (by rintro rfl; exact hdouble (.self _)) h
    | absent => cases ha
    | present => cases ha
    | seq => cases ha
    | set => cases ha
    | record => cases ha
  | absent inner => exact (eq_null_of_compare h).symm
  | present ha ih =>
    cases hb with
    | plain hb => cases hb
    | absent => exact eq_null_of_compare (Std.OrientedCmp.eq_comm.mp h)
    | present hb => exact ih hb (fun hinner => hdouble (.optional hinner)) h
  | seq ha ih =>
    cases hb with
    | plain hb => cases hb
    | seq hb =>
      exact congrArg Value.seq (eq_of_compareAll_of_mem (fun item hmem other hother =>
        ih item hmem (hb other hother) fun hinner => hdouble (.seq hinner)) h)
  | set ha ih =>
    cases hb with
    | plain hb => cases hb
    | set hb =>
      exact congrArg Value.seq (eq_of_compareAll_of_mem (fun item hmem other hother =>
        ih item hmem (hb other hother) fun hinner => hdouble (.set hinner)) h)
  | record ha ih =>
    cases hb with
    | plain hb => cases hb
    | record hb =>
      refine congrArg Value.record (eq_of_compareAll (forall₂_of_common ih hb ?_) h)
      rintro type htype a b ⟨_, ih⟩ hb
      obtain ⟨field, hfield, rfl⟩ := List.mem_map.mp htype
      exact ih hb fun hinner => hdouble (.record hfield hinner)

end

/-! ## 5. Items in order, each once -/

/-- `set` has the items of a list in their order, one for each place in it. -/
structure IsSetOf (items set : List Value) : Prop where
  inOrder : set.Pairwise fun a b => compare a b = .lt
  subset : ∀ item ∈ set, item ∈ items
  covers : ∀ item ∈ items, ∃ kept ∈ set, compare item kept = .eq

/-- If items that are equal in the order are equal, all of them are there. -/
theorem IsSetOf.mem_iff {items set : List Value} (h : IsSetOf items set)
    (heq : ∀ a ∈ items, ∀ b ∈ items, compare a b = .eq → a = b) {item : Value} :
    item ∈ set ↔ item ∈ items := by
  refine ⟨h.subset item, fun hitem => ?_⟩
  obtain ⟨kept, hkept, hcompare⟩ := h.covers item hitem
  rwa [heq item hitem kept (h.subset kept hkept) hcompare]

/-- **And there is only one such list.** -/
theorem IsSetOf.unique {items set other : List Value} (h : IsSetOf items set)
    (h' : IsSetOf items other) (heq : ∀ a ∈ items, ∀ b ∈ items, compare a b = .eq → a = b) :
    set = other := by
  have hirrefl : Std.Irrefl fun a b : Value => compare a b = .lt :=
    ⟨fun a hlt => by
      have hself : compare a a = .eq := Std.ReflCmp.compare_self
      rw [hself] at hlt
      cases hlt⟩
  have hasymm : ∀ a b : Value, compare a b = .lt → ¬ compare b a = .lt := fun a b hab =>
    @Std.OrientedCmp.not_lt_of_lt Value compare _ a b hab
  have hperm : set.Perm other :=
    (List.perm_ext_iff_of_nodup h.inOrder.nodup h'.inOrder.nodup).mpr fun item =>
      (h.mem_iff heq).trans (h'.mem_iff heq).symm
  exact hperm.eq_of_pairwise (fun a b _ _ hab hba => absurd hba (hasymm a b hab))
    h.inOrder h'.inOrder

theorem mem_of_mem_insertDistinct {item x : Value} {items : List Value}
    (h : x ∈ insertDistinct item items) : x = item ∨ x ∈ items := by
  induction items with
  | nil => exact .inl (List.mem_singleton.mp h)
  | cons other rest ih =>
    rw [insertDistinct] at h
    split at h
    · exact List.mem_cons.mp h
    · exact .inr h
    · obtain rfl | h := List.mem_cons.mp h
      · exact .inr List.mem_cons_self
      · exact (ih h).imp_right (List.mem_cons_of_mem other)

theorem mem_insertDistinct_of_mem {item x : Value} {items : List Value} (h : x ∈ items) :
    x ∈ insertDistinct item items := by
  induction items with
  | nil => cases h
  | cons other rest ih =>
    rw [insertDistinct]
    split
    · exact List.mem_cons_of_mem item h
    · exact h
    · obtain rfl | h := List.mem_cons.mp h
      · exact List.mem_cons_self
      · exact List.mem_cons_of_mem other (ih h)

/-- An item that is put into its place is there, or another one equal to it in the order. -/
theorem exists_mem_insertDistinct (item : Value) (items : List Value) :
    ∃ kept ∈ insertDistinct item items, compare item kept = .eq := by
  induction items with
  | nil => exact ⟨item, List.mem_singleton_self item, Std.ReflCmp.compare_self⟩
  | cons other rest ih =>
    rw [insertDistinct]
    split
    · exact ⟨item, List.mem_cons_self, Std.ReflCmp.compare_self⟩
    · rename_i hother
      exact ⟨other, List.mem_cons_self, hother⟩
    · obtain ⟨kept, hkept, hcompare⟩ := ih
      exact ⟨kept, List.mem_cons_of_mem other hkept, hcompare⟩

theorem inOrder_insertDistinct {item : Value} {items : List Value}
    (h : items.Pairwise fun a b => compare a b = .lt) :
    (insertDistinct item items).Pairwise fun a b => compare a b = .lt := by
  induction items with
  | nil => exact List.pairwise_singleton _ item
  | cons other rest ih =>
    obtain ⟨hbelow, hrest⟩ := List.pairwise_cons.mp h
    rw [insertDistinct]
    split
    · rename_i hlt
      refine List.pairwise_cons.mpr ⟨List.forall_mem_cons.mpr ⟨hlt, fun x hx => ?_⟩, h⟩
      exact Std.TransCmp.lt_trans hlt (hbelow x hx)
    · exact h
    · rename_i hgt
      refine List.pairwise_cons.mpr ⟨fun x hx => ?_, ih hrest⟩
      obtain rfl | hx := mem_of_mem_insertDistinct hx
      · exact Std.OrientedCmp.gt_iff_lt.mp hgt
      · exact hbelow x hx

/-- **Items are put in order, each once.** -/
theorem isSetOf_sortDistinct (items : List Value) : IsSetOf items (sortDistinct items) := by
  induction items with
  | nil => exact ⟨List.Pairwise.nil, nofun, nofun⟩
  | cons item rest ih =>
    refine ⟨inOrder_insertDistinct ih.inOrder, fun x hx => ?_, ?_⟩
    · obtain rfl | hx := mem_of_mem_insertDistinct hx
      · exact List.mem_cons_self
      · exact List.mem_cons_of_mem item (ih.subset x hx)
    · refine List.forall_mem_cons.mpr ⟨exists_mem_insertDistinct item _, fun x hx => ?_⟩
      obtain ⟨kept, hkept, hcompare⟩ := ih.covers x hx
      exact ⟨kept, mem_insertDistinct_of_mem hkept, hcompare⟩

end Value

end Dossier
