/-
# Values that are alike agree with the same values

Queries look at values mostly through `agrees` and `compare?`.  Neither sees the order of keys or
the width of integers: alike values agree with the same values (`Alike.agrees_left`,
`Alike.agrees_right`) and have the same order to them (`Alike.compare?_left`,
`Alike.compare?_right`).

Outside the scopes of code values agree by their numbers, inside by sameness, which sees the width.
Both tests go by the parts of values (`Partwise`), and the induction over alike values is on all
such tests at once.  They look for the fields of their left side in the right one, so that on the
left each key has to stand once.
-/
import Dossier.Proofs.Bson.Reordering

namespace Dossier

namespace Bson

variable {anyWidth : Prop}

/-! ## 1. Numbers, items and fields -/

/-- With a number agree only numbers. -/
theorem agrees_of_number_left {a : Bson} {m : Number} (h : a.number? = some m) (b : Bson) :
    a.agrees b = b.number?.any m.agrees := by
  cases a <;> cases h <;> cases b <;> rfl

theorem agrees_of_number_right {b : Bson} {n : Number} (h : b.number? = some n) (a : Bson) :
    a.agrees b = a.number?.any (·.agrees n) := by
  cases b <;> cases h <;> cases a <;> rfl

theorem compare?_of_number_left {a : Bson} {m : Number} (h : a.number? = some m) (b : Bson) :
    a.compare? b = b.number?.bind m.compare? := by
  cases a <;> cases h <;> cases b <;> rfl

theorem compare?_of_number_right {b : Bson} {n : Number} (h : b.number? = some n) (a : Bson) :
    a.compare? b = a.number?.bind (·.compare? n) := by
  cases b <;> cases h <;> cases a <;> rfl

/-- A test that goes through two lists side by side. -/
theorem itemwise_iff {F : List Bson → List Bson → Bool} {R : Bson → Bson → Bool}
    (hnil : F [] [] = true) (hcons : ∀ a as b bs, F (a :: as) (b :: bs) = (R a b && F as bs))
    (hleft : ∀ b bs, F [] (b :: bs) = false) (hright : ∀ a as, F (a :: as) [] = false)
    {as bs : List Bson} :
    F as bs = true ↔ List.Forall₂ (fun a b => R a b = true) as bs := by
  induction as generalizing bs with
  | nil => cases bs <;> simp [hnil, hleft]
  | cons a as ih =>
    cases bs with
    | nil => simp [hright]
    | cons b bs => rw [hcons, Bool.and_eq_true, ih, List.forall₂_cons]

/-! ## 2. Keys that stand once -/

theorem wellKeyed_array_iff {items : List Bson} :
    (Bson.array items).WellKeyed ↔ ∀ item ∈ items, item.WellKeyed := by
  show WellKeyedItems items ↔ _
  induction items with
  | nil => simp [WellKeyedItems]
  | cons item rest ih => rw [WellKeyedItems, ih, List.forall_mem_cons]

theorem wellKeyed_document_iff {d : Document} :
    (Bson.document d).WellKeyed ↔ d.keys.Nodup ∧ ∀ entry ∈ d, entry.2.WellKeyed := by
  constructor
  · intro h
    have hd : d.WellKeyed := h
    exact ⟨hd.nodup, fun entry hentry => hd.value hentry⟩
  · rintro ⟨hnodup, hvalues⟩
    show WellKeyedFields d
    induction d with
    | nil => trivial
    | cons entry rest ih =>
      obtain ⟨hfresh, hrest⟩ := List.nodup_cons.mp hnodup
      obtain ⟨hvalue, hvalues⟩ := List.forall_mem_cons.mp hvalues
      exact ⟨fun other hother heq => hfresh (List.mem_map.mpr ⟨other, hother, heq⟩), hvalue,
        ih hrest hvalues⟩

theorem Alike.wellKeyed {a b : Bson} (h : a.Alike anyWidth b) (ha : a.WellKeyed) :
    b.WellKeyed := by
  induction h with
  | refl => exact ha
  | integer _ _ hb =>
    rcases number?_eq_some_int_iff.mp hb with ⟨m, rfl, -⟩ | ⟨m, rfl, -⟩
    · trivial
    · trivial
  | @array _ as bs hlength _ ih =>
    refine wellKeyed_array_iff.mpr fun b hb => ?_
    obtain ⟨i, hi, rfl⟩ := List.mem_iff_getElem.mp hb
    have hia : i < as.length := hlength ▸ hi
    exact ih i as[i] bs[i] (List.getElem?_eq_getElem hia) (List.getElem?_eq_getElem hi)
      (wellKeyed_array_iff.mp ha _ (List.getElem_mem hia))
  | @document anyWidth d e hkeys hvalues ih =>
    obtain ⟨hnodup, hwell⟩ := wellKeyed_document_iff.mp ha
    have hnodup' : e.keys.Nodup := hkeys.nodup_iff.mp hnodup
    refine wellKeyed_document_iff.mpr ⟨hnodup', fun entry hentry => ?_⟩
    have he := Document.get?_of_mem hnodup' hentry
    have halike : d.Alike anyWidth e := alike_document_iff.mp (.document hkeys hvalues)
    obtain ⟨a, hd, -⟩ := (halike.symm.get?_of_some he)
    exact ih entry.1 a entry.2 hd he (hwell (entry.1, a) (Document.mem_of_get? hd))
  | codeWithScope _ _ ih => exact ih ha

/-! ## 3. Comparisons that go by the parts of values -/

/-- A value without its parts. -/
def outline : Bson → Bson
  | .array _ => .array []
  | .document _ => .document []
  | .codeWithScope source _ => .codeWithScope source []
  | _ => .null

theorem exists_array_of_outline {a : Bson} {bs : List Bson} (h : a.outline = outline (.array bs)) :
    ∃ as, a = .array as := by
  cases a <;> simp [outline] at h ⊢

theorem exists_document_of_outline {a : Bson} {e : Document}
    (h : a.outline = outline (.document e)) : ∃ d, a = .document d := by
  cases a <;> simp [outline] at h ⊢

theorem exists_codeWithScope_of_outline {a : Bson} {source : String} {e : Document}
    (h : a.outline = outline (.codeWithScope source e)) : ∃ d, a = .codeWithScope source d := by
  cases a <;> simp_all [outline]

/-- A test of two values that goes through arrays item by item and through documents key by key, and
takes the scopes of code as they are stored.  If their width is of no account, it sees of integers
only which numbers they are. -/
structure Partwise (anyWidth : Prop) (R : Bson → Bson → Bool) : Prop where
  outline : ∀ {a b}, R a b = true → a.outline = b.outline
  array : ∀ {as bs},
    R (.array as) (.array bs) = true ↔ List.Forall₂ (fun a b => R a b = true) as bs
  document : ∀ {d e : Document}, R (.document d) (.document e) = true ↔
    d.length = e.length ∧ ∀ entry ∈ d, ∃ b, e.get? entry.1 = some b ∧ R entry.2 b = true
  scope : ∀ {source d e}, R (.codeWithScope source d) (.codeWithScope source e) = true ↔
    same (.document d) (.document e) = true
  integer : anyWidth → ∀ {a b n}, a.number? = some (.int n) → b.number? = some (.int n) →
    ∀ c, R a c = R b c ∧ R c a = R c b

theorem outline_eq_of_same {a b : Bson} (h : same a b = true) : a.outline = b.outline := by
  cases a with
  | codeWithScope source d =>
    cases b with
    | codeWithScope text e =>
      rw [same, Bool.and_eq_true, beq_iff_eq] at h
      rw [outline, outline, h.1]
    | _ => cases h
  | _ => cases b <;> first | rfl | cases h

/-- Sameness sees the width of integers. -/
theorem partwise_same : Partwise False same where
  outline := outline_eq_of_same
  array := by
    intro as bs
    rw [same]
    exact itemwise_iff (by rw [sameItems]) (fun a as b bs => by rw [sameItems])
      (fun _ _ => rfl) (fun _ _ => rfl)
  document := by
    intro d e
    rw [same, Bool.and_eq_true, beq_iff_eq, sameFields_iff]
  scope := by
    intro source d e
    rw [same, same, beq_self_eq_true, Bool.true_and]
  integer := False.elim

theorem outline_of_number {a : Bson} {m : Number} (h : a.number? = some m) : a.outline = .null := by
  cases a <;> cases h <;> rfl

theorem outline_eq_of_agrees {a b : Bson} (h : a.agrees b = true) : a.outline = b.outline := by
  rw [agrees.eq_def] at h
  split at h
  · rfl
  · rfl
  · unfold agreesPlain at h
    split at h
    · rename_i ha hb
      rw [outline_of_number ha, outline_of_number hb]
    · exact outline_eq_of_same h
    · cases h

theorem partwise_agrees : Partwise anyWidth agrees where
  outline := outline_eq_of_agrees
  array := by
    intro as bs
    rw [agrees]
    exact itemwise_iff (by rw [agreesItems]) (fun a as b bs => by rw [agreesItems])
      (fun _ _ => rfl) (fun _ _ => rfl)
  document := by
    intro d e
    rw [agrees, Bool.and_eq_true, beq_iff_eq]
    refine and_congr_right fun _ => fieldwise_iff (fun e => by rw [agreesFields]) ?_
    intro k a rest e
    rw [agreesFields]
    cases Document.get? e k <;> rfl
  scope := by
    intro source d e
    exact partwise_same.scope
  integer := by
    intro _ a b n ha hb c
    rw [agrees_of_number_left ha, agrees_of_number_left hb, agrees_of_number_right ha,
      agrees_of_number_right hb]
    exact ⟨rfl, rfl⟩

/-- What such a test relates to a value it relates to those that are like it. -/
theorem Alike.related_right {b b' : Bson} (h : b.Alike anyWidth b') {R : Bson → Bson → Bool}
    (hR : Partwise anyWidth R) {a : Bson} (hab : R a b = true) : R a b' = true := by
  induction h generalizing R a with
  | refl => exact hab
  | integer hwidth hb hb' => rwa [← (hR.integer hwidth hb hb' a).2]
  | @array _ bs bs' hlength _ ih =>
    obtain ⟨as, rfl⟩ := exists_array_of_outline (hR.outline hab)
    rw [hR.array, forall₂_iff_getElem?] at hab ⊢
    refine ⟨hab.1.trans hlength, fun i a b' ha hb' => ?_⟩
    obtain ⟨hi, -⟩ := List.getElem?_eq_some_iff.mp hb'
    have hb := List.getElem?_eq_getElem (hlength ▸ hi)
    exact ih i _ b' hb hb' hR (hab.2 i a _ ha hb)
  | @document anyWidth e e' hkeys hvalues ih =>
    obtain ⟨d, rfl⟩ := exists_document_of_outline (hR.outline hab)
    have halike : e.Alike anyWidth e' := alike_document_iff.mp (.document hkeys hvalues)
    rw [hR.document] at hab ⊢
    refine ⟨hab.1.trans halike.length_eq, fun entry hentry => ?_⟩
    obtain ⟨b, hb, hrelated⟩ := hab.2 entry hentry
    obtain ⟨b', hb', -⟩ := halike.get?_of_some hb
    exact ⟨b', hb', ih entry.1 b b' hb hb' hR hrelated⟩
  | codeWithScope source _ ih =>
    obtain ⟨d, rfl⟩ := exists_codeWithScope_of_outline (hR.outline hab)
    rw [hR.scope] at hab ⊢
    exact ih partwise_same hab

theorem Alike.related_left {a a' : Bson} (h : a.Alike anyWidth a') (ha : a.WellKeyed)
    {R : Bson → Bson → Bool} (hR : Partwise anyWidth R) {b : Bson} (hab : R a b = true) :
    R a' b = true := by
  induction h generalizing R b with
  | refl => exact hab
  | integer hwidth hn hn' => rwa [← (hR.integer hwidth hn hn' b).1]
  | @array _ as as' hlength _ ih =>
    obtain ⟨bs, rfl⟩ := exists_array_of_outline (hR.outline hab).symm
    rw [hR.array, forall₂_iff_getElem?] at hab ⊢
    refine ⟨hlength.symm.trans hab.1, fun i a' b ha' hb => ?_⟩
    obtain ⟨hi, -⟩ := List.getElem?_eq_some_iff.mp ha'
    have hia : i < as.length := hlength ▸ hi
    have has := List.getElem?_eq_getElem hia
    exact ih i _ a' has ha' (wellKeyed_array_iff.mp ha _ (List.getElem_mem hia)) hR
      (hab.2 i _ b has hb)
  | @document anyWidth d d' hkeys hvalues ih =>
    obtain ⟨e, rfl⟩ := exists_document_of_outline (hR.outline hab).symm
    have halike : d.Alike anyWidth d' := alike_document_iff.mp (.document hkeys hvalues)
    obtain ⟨hnodup, hwell⟩ := wellKeyed_document_iff.mp ha
    rw [hR.document] at hab ⊢
    refine ⟨halike.length_eq.symm.trans hab.1, fun entry hentry => ?_⟩
    have hd' := Document.get?_of_mem (hkeys.nodup_iff.mp hnodup) hentry
    obtain ⟨a, hd, -⟩ := halike.symm.get?_of_some hd'
    have hmem := Document.mem_of_get? hd
    obtain ⟨b, hb, hrelated⟩ := hab.2 (entry.1, a) hmem
    exact ⟨b, hb, ih entry.1 a entry.2 hd hd' (hwell _ hmem) hR hrelated⟩
  | codeWithScope source _ ih =>
    obtain ⟨e, rfl⟩ := exists_codeWithScope_of_outline (hR.outline hab).symm
    rw [hR.scope] at hab ⊢
    exact ih ha partwise_same hab

/-- Alike values agree with the same values, on the right and, if each key stands once, on the
left. -/
theorem Alike.agrees_right {b b' : Bson} (h : b.Alike anyWidth b') (a : Bson) :
    a.agrees b = a.agrees b' :=
  Bool.eq_iff_iff.mpr ⟨h.related_right partwise_agrees, h.symm.related_right partwise_agrees⟩

theorem Alike.agrees_left {a a' : Bson} (h : a.Alike anyWidth a') (ha : a.WellKeyed) (b : Bson) :
    a.agrees b = a'.agrees b :=
  Bool.eq_iff_iff.mpr ⟨h.related_left ha partwise_agrees,
    h.symm.related_left (h.wellKeyed ha) partwise_agrees⟩

/-! ## 4. Order -/

/-- Alike values have the same order to the same values. -/
theorem Alike.compare?_left {a a' : Bson} (h : a.Alike anyWidth a') (b : Bson) :
    a.compare? b = a'.compare? b := by
  cases h with
  | refl => rfl
  | integer _ ha ha' => rw [compare?_of_number_left ha, compare?_of_number_left ha']
  | array | document | codeWithScope => rfl

theorem Alike.compare?_right {b b' : Bson} (h : b.Alike anyWidth b') (a : Bson) :
    a.compare? b = a.compare? b' := by
  cases h with
  | refl => rfl
  | integer _ hb hb' => rw [compare?_of_number_right hb, compare?_of_number_right hb']
  | array | document | codeWithScope => cases a <;> rfl

/-! ## 5. Texts and truth -/

theorem asString?_of_number {v : Bson} {m : Number} (h : v.number? = some m) :
    v.asString? = none := by
  cases v <;> cases h <;> rfl

theorem Alike.asString?_eq {a b : Bson} (h : a.Alike anyWidth b) : a.asString? = b.asString? := by
  cases h with
  | refl => rfl
  | integer _ ha hb => rw [asString?_of_number ha, asString?_of_number hb]
  | array | document | codeWithScope => rfl

theorem isTruthy_of_integer {v : Bson} {n : Int} (h : v.number? = some (.int n)) :
    v.isTruthy = (n != 0) := by
  cases v <;> cases h <;> rfl

theorem Alike.isTruthy_eq {a b : Bson} (h : a.Alike anyWidth b) : a.isTruthy = b.isTruthy := by
  cases h with
  | refl => rfl
  | integer _ ha hb => rw [isTruthy_of_integer ha, isTruthy_of_integer hb]
  | array | document | codeWithScope => rfl

end Bson

end Dossier
