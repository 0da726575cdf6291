/-
# What a query for an identity finds

An insertion compares the new identity with those that are there by sameness, which tells the
element types of numbers apart.  A query for an identity compares by agreement, which takes numbers
of all types for numbers, and looks at both sides as doubles once one of them is a double.  So
sameness is the finer of the two, and a query can find more than one document.

For identities without parts (`Bson.Scalar`) the two differ in two ways only
(`Bson.Scalar.same_of_agrees`):

* Numbers of different element types can agree and are never the same.  Where no two identities are
  numbers of different types that are equal as doubles (`Store.Unmixed`), this does not matter.
* A double is looked for among 64-bit integers, of which several can be that double.

Main statement: `Store.find_identity`.  A query for an identity finds at most one document, unless
it asks for a double that two different integers among the identities are equal to; and an insertion
refuses a document if a query for its identity finds one whose identity is of the same type.
-/
import Dossier.Proofs.Double.Integers
import Dossier.Proofs.Query.Plain
import Dossier.Proofs.Store.Identity
import Mathlib.Data.List.Pairwise

namespace Dossier

/-! ## 1. Values without parts -/

/-- Numbers that agree are equal as doubles, whether they were compared as such or not. -/
theorem Number.equal_of_agrees {m n : Number} (h : m.agrees n = true) :
    m.toDouble.equal n.toDouble = true := by
  cases m with
  | double x => cases n <;> exact h
  | int m =>
    cases n with
    | double y => exact h
    | int n =>
      cases eq_of_beq h
      exact Double.equal_self (Double.isNaN_ofRatio _ _ _)

namespace Bson

/-- A value without parts that is not null and equals itself. -/
def Scalar : Bson → Prop
  | .boolean _ | .int32 _ | .int64 _ | .string _ | .date _ => True
  | .double x => x.isNaN = false
  | _ => False

/-- Both values are numbers, and equal as doubles. -/
def SameDouble (a b : Bson) : Prop :=
  ∃ m n, a.number? = some m ∧ b.number? = some n ∧ m.toDouble.equal n.toDouble = true

theorem SameDouble.symm {a b : Bson} : a.SameDouble b → b.SameDouble a := by
  rintro ⟨m, n, ha, hb, heq⟩
  exact ⟨n, m, hb, ha, (Double.equal_comm _ _).trans heq⟩

theorem SameDouble.trans {a b c : Bson} : a.SameDouble b → b.SameDouble c → a.SameDouble c := by
  rintro ⟨m, n, ha, hb, heq⟩ ⟨_, k, hb', hc, heq'⟩
  cases Option.some.inj (hb.symm.trans hb')
  exact ⟨m, k, ha, hc, Double.equal_trans heq heq'⟩

variable {a b v : Bson}

theorem Scalar.agrees_eq (ha : a.Scalar) (v : Bson) : a.agrees v = a.agreesPlain v := by
  cases a <;> first | rfl | exact ha.elim

theorem Scalar.agrees_self (h : a.Scalar) : a.agrees a = true := by
  rw [h.agrees_eq]
  cases a with
  | double x => exact Double.equal_self h
  | boolean _ | int32 _ | int64 _ | string _ | date _ =>
    simp [agreesPlain, number?, Number.agrees, same]
  | _ => exact h.elim

/-- What agrees with a number is a number, and equal to it as a double. -/
theorem Scalar.sameDouble (ha : a.Scalar) {n : Number} (hv : v.number? = some n)
    (h : a.agrees v = true) : a.SameDouble v := by
  rw [ha.agrees_eq, agreesPlain, hv] at h
  cases hnumber : a.number? with
  | none => rw [hnumber] at h; cases h
  | some m => rw [hnumber] at h; exact ⟨m, n, hnumber, hv, Number.equal_of_agrees h⟩

/-- What agrees with a value that is no number is that value. -/
theorem Scalar.eq_of_agrees (ha : a.Scalar) (hv : v.number? = none) (h : a.agrees v = true) :
    a = v := by
  rw [ha.agrees_eq, agreesPlain, hv] at h
  cases a with
  | boolean _ | string _ | date _ =>
    replace h : same _ v = true := h
    cases v <;> simp_all [same]
  | int32 _ | int64 _ | double _ => cases h
  | _ => exact ha.elim

/-- Integers of 32 bits that are equal as doubles are equal. -/
theorem SameDouble.int32_eq {m n : Int32} (h : (int32 m).SameDouble (int32 n)) : m = n := by
  obtain ⟨_, _, ⟨⟩, ⟨⟩, hequal⟩ := h
  have hsmall (k : Int32) : k.toInt.natAbs < 2 ^ 53 := by
    have := k.le_toInt
    have := k.toInt_lt
    omega
  exact Int32.toInt_inj.mp ((Double.equal_ofInt_iff (hsmall m) (hsmall n)).mp hequal)

/-- Integers that agree with an integer are equal to it. -/
theorem int64_eq_of_agrees {m n : Int64} {k : Int} (hv : v.number? = some (.int k))
    (hm : (int64 m).agrees v = true) (hn : (int64 n).agrees v = true) : m = n := by
  have hint (l : Int64) (h : (int64 l).agrees v = true) : l.toInt = k := by
    rw [Scalar.agrees_eq (a := int64 l) trivial, agreesPlain, hv] at h
    exact eq_of_beq h
  exact Int64.toInt_inj.mp ((hint m hm).trans (hint n hn).symm)

/-- **Where agreement is no looser than sameness.**  Two scalars that agree with a value are the
same, if they are of one type as soon as they are equal as doubles, and equal as soon as they are
64-bit integers that were compared with a double. -/
theorem Scalar.same_of_agrees (ha : a.Scalar) (hb : b.Scalar) (hav : a.agrees v = true)
    (hbv : b.agrees v = true) (htype : a.SameDouble b → a.elementType = b.elementType)
    (hdouble : ∀ x m n, v = .double x → a = .int64 m → b = .int64 n → m = n) :
    a.same b = true := by
  cases hv : v.number? with
  | none =>
    cases ha.eq_of_agrees hv hav
    cases hb.eq_of_agrees hv hbv
    have hself := ha.agrees_self
    rwa [ha.agrees_eq, agreesPlain, hv] at hself
  | some k =>
    have hequal := (ha.sameDouble hv hav).trans (hb.sameDouble hv hbv).symm
    have htypes := htype hequal
    obtain ⟨i, j, hi, hj, hij⟩ := hequal
    cases a with
    | int32 m =>
      cases b with
      | int32 n =>
        cases (SameDouble.int32_eq ⟨i, j, hi, hj, hij⟩ : m = n)
        exact beq_self_eq_true m
      | _ => simp [elementType] at htypes
    | int64 m =>
      cases b with
      | int64 n =>
        have heq : m = n := by
          cases v with
          | double x => exact hdouble x m n rfl rfl rfl
          | int32 _ | int64 _ => exact int64_eq_of_agrees rfl hav hbv
          | _ => cases hv
        cases heq
        exact beq_self_eq_true m
      | _ => simp [elementType] at htypes
    | double x =>
      cases b with
      | double y =>
        cases hi
        cases hj
        exact hij
      | _ => simp [elementType] at htypes
    | _ => cases hi

/-- Among values of one type agreement is sameness. -/
theorem Scalar.same_of_elementType (ha : a.Scalar) (hb : b.Scalar)
    (htype : a.elementType = b.elementType) (h : a.agrees b = true) : a.same b = true := by
  refine ha.same_of_agrees hb h hb.agrees_self (fun _ => htype) ?_
  rintro x m n rfl rfl ⟨⟩

end Bson

/-! ## 2. Queries for an identity -/

/-- The query for an identity. -/
def identityEquals (v : Bson) : Document := [(storeIdentityKey, .document [("$eq", v)])]

/-- The query gives no error, and holds of the documents whose identity equals the value. -/
theorem holds_identityEquals (d : Document) (v : Bson) :
    Query.holds d (identityEquals v) = .ok (Query.equals (d.get? storeIdentityKey) v) := by
  have hfound : Path.resolve (Path.segments storeIdentityKey) d = d.get? storeIdentityKey := by
    rw [Path.segments_eq_singleton_iff.mpr ⟨rfl, by decide⟩]
    rfl
  rw [identityEquals, Query.holds_equality d rfl, hfound]

theorem Bson.Scalar.equals_eq {a : Bson} (ha : a.Scalar) (v : Bson) :
    Query.equals (some a) v = a.agrees v := by
  cases a <;> first | rfl | exact ha.elim

theorem length_filter_le_one_iff {α : Type} {p : α → Bool} {items : List α} :
    (items.filter p).length ≤ 1 ↔
      items.Pairwise fun a b => p a = true → p b = true → False := by
  rw [← List.pairwise_filter]
  match items.filter p with
  | [] => simp
  | [a] => simp
  | a :: b :: rest =>
    refine iff_of_false (by simp) fun h => ?_
    exact (List.pairwise_cons.mp h).1 b List.mem_cons_self

/-! ## 3. Collections whose identities have no parts -/

/-- The call inserts no document, or one that has an identity without parts. -/
def StoreCall.InsertsScalar : StoreCall → Prop
  | .insert _ document => ∃ x, document.get? storeIdentityKey = some x ∧ x.Scalar
  | _ => True

namespace Store

/-- All documents have identities without parts, no two of them the same. -/
structure Identified (ds : List Document) : Prop where
  distinct : Distinct ds
  scalar : ∀ d ∈ ds, ∃ x, d.get? storeIdentityKey = some x ∧ x.Scalar

theorem identified_nil : Identified [] :=
  ⟨distinct_nil, fun _ h => absurd h List.not_mem_nil⟩

/-- **Every step keeps all identities without parts.** -/
theorem Step.identified {collection : String} {call : StoreCall} {ds ds' : List Document}
    (hstep : Step collection call ds ds') (hwell : call.WellKeyed)
    (hharmless : call.UpdatesBy Harmless) (hscalar : call.InsertsScalar) (h : Identified ds) :
    Identified ds' := by
  refine ⟨hstep.distinct hwell hharmless h.distinct, ?_⟩
  cases hstep with
  | insert hfresh =>
    intro d hd
    rcases List.mem_append.mp hd with hd | hd
    · exact h.scalar d hd
    · exact List.mem_singleton.mp hd ▸ hscalar
  | update hfirst hchanged =>
    intro e he
    rcases List.mem_append.mp he with he | he
    · exact h.scalar e (List.mem_append_left _ he)
    · rcases List.mem_cons.mp he with rfl | he
      · rw [identity_applyUpdate hharmless hchanged]
        exact h.scalar _ (List.mem_append_right _ List.mem_cons_self)
      · exact h.scalar e (List.mem_append_right _ (List.mem_cons_of_mem _ he))
  | delete hfirst =>
    intro e he
    refine h.scalar e (List.mem_append.mpr ?_)
    exact (List.mem_append.mp he).imp_right fun he => List.mem_cons_of_mem _ he

/-- No two identities are numbers of different types that are equal as doubles. -/
def Unmixed (ids : List (Option Bson)) : Prop :=
  ∀ a b, some a ∈ ids → some b ∈ ids → a.SameDouble b → a.elementType = b.elementType

/-- The value is no double that agrees with two different 64-bit integers among the identities. -/
def Unambiguous (ids : List (Option Bson)) (v : Bson) : Prop :=
  ∀ x m n, v = .double x → some (.int64 m) ∈ ids → some (.int64 n) ∈ ids →
    (Bson.int64 m).agrees v = true → (Bson.int64 n).agrees v = true → m = n

/-- The query finds all documents whose identity equals the value. -/
theorem find_identityEquals (s : Store) (collection : String) (v : Bson) :
    ∃ found, s.find collection (identityEquals v) 0 none = .ok found ∧
      found.documents =
        (s.documents collection).filter fun d => Query.equals (d.get? storeIdentityKey) v := by
  have hholds : ∀ d ∈ s.documents collection, Query.holds d (identityEquals v) =
      .ok (Query.equals (d.get? storeIdentityKey) v) := fun d _ => holds_identityEquals d v
  exact ⟨_, find_eq hholds 0 none, rfl⟩

theorem mem_identities_iff {s : Store} {collection : String} {x : Bson} :
    some x ∈ s.identities collection ↔
      ∃ d ∈ s.documents collection, d.get? storeIdentityKey = some x :=
  List.mem_map

/-- At most one document is found exactly if the value is unambiguous among the identities. -/
theorem Identified.length_le_one_iff {ds : List Document} (h : Identified ds)
    {ids : List (Option Bson)} (hids : ids = ds.map fun d => d.get? storeIdentityKey)
    (hunmixed : Unmixed ids) (v : Bson) :
    (ds.filter fun d => Query.equals (d.get? storeIdentityKey) v).length ≤ 1 ↔
      Unambiguous ids v := by
  rw [length_filter_le_one_iff]
  subst hids
  have hmem {d : Document} {x : Bson} (hd : d ∈ ds) (hx : d.get? storeIdentityKey = some x) :
      some x ∈ ds.map fun d => d.get? storeIdentityKey := List.mem_map.mpr ⟨d, hd, hx⟩
  constructor
  · rintro hpair x m n - hm hn hmv hnv
    obtain ⟨d, hd, hdm⟩ := List.mem_map.mp hm
    obtain ⟨e, he, hen⟩ := List.mem_map.mp hn
    by_contra hne
    have hde : d ≠ e := by
      rintro rfl
      cases hdm.symm.trans hen
      exact hne rfl
    have : Std.Symm fun d e : Document => Query.equals (d.get? storeIdentityKey) v = true →
        Query.equals (e.get? storeIdentityKey) v = true → False := ⟨fun _ _ h he hd => h hd he⟩
    refine hpair.forall hd he hde ?_ ?_
    · rw [hdm]
      exact hmv
    · rw [hen]
      exact hnv
  · intro hone
    have hunlike := List.pairwise_map.mp h.distinct.unlike
    refine hunlike.imp_of_mem fun {d e} hd he hunlike hdv hev => ?_
    obtain ⟨x, hx, hxs⟩ := h.scalar d hd
    obtain ⟨y, hy, hys⟩ := h.scalar e he
    rw [hx, hxs.equals_eq] at hdv
    rw [hy, hys.equals_eq] at hev
    have hsame : x.same y = true := by
      refine hxs.same_of_agrees hys hdv hev (hunmixed x y (hmem hd hx) (hmem he hy)) ?_
      rintro z m n rfl rfl rfl
      exact hone z m n rfl (hmem hd hx) (hmem he hy) hdv hev
    rw [hunlike x hx y hy] at hsame
    cases hsame

theorem identified_after {calls : List StoreCall}
    (hcalls : ∀ call ∈ calls, call.WellKeyed ∧ call.UpdatesBy Harmless ∧ call.InsertsScalar)
    (collection : String) : Identified ((empty.after calls).documents collection) :=
  after_induction identified_nil (fun call hcall _ _ _ hds hstep =>
    hstep.identified (hcalls call hcall).1 (hcalls call hcall).2.1 (hcalls call hcall).2.2 hds)
    collection

theorem insert_eq_error {s : Store} {collection : String} {document d : Document} {x y : Bson}
    (hy : document.get? storeIdentityKey = some y) (hd : d ∈ s.documents collection)
    (hx : d.get? storeIdentityKey = some x) (hsame : x.same y = true) :
    s.insert collection document = .error (.alreadyExists y.toText collection) := by
  have hholds : holdsIdentity y (s.documents collection) = true := by
    refine List.any_eq_true.mpr ⟨d, hd, ?_⟩
    rw [hx]
    exact hsame
  unfold insert
  rw [hy]
  exact if_pos hholds

/-- **What a query for an identity finds.**  After any calls that insert documents with identities
without parts, and update without writing below the identity:

* If no two identities of a collection are numbers of different types that are equal as doubles, a
  query for an identity finds at most one document, unless it asks for a double that agrees with
  two different 64-bit integers among the identities.
* A document is refused if a query for its identity finds one with an identity of the same type. -/
theorem find_identity {calls : List StoreCall}
    (hcalls : ∀ call ∈ calls, call.WellKeyed ∧ call.UpdatesBy Harmless ∧ call.InsertsScalar)
    (collection : String) :
    let s := empty.after calls
    (Unmixed (s.identities collection) → ∀ v : Bson, ∃ found,
      s.find collection (identityEquals v) 0 none = .ok found ∧
        (found.documents.length ≤ 1 ↔ Unambiguous (s.identities collection) v)) ∧
    ∀ (document d : Document) (x y : Bson), document.get? storeIdentityKey = some y → y.Scalar →
      d ∈ s.documents collection → d.get? storeIdentityKey = some x →
      x.elementType = y.elementType → Query.holds d (identityEquals y) = .ok true →
      s.insert collection document = .error (.alreadyExists y.toText collection) := by
  intro s
  have hidentified := identified_after hcalls collection
  refine ⟨fun hunmixed v => ?_, fun document d x y hy hys hd hx htype hholds => ?_⟩
  · obtain ⟨found, hfind, hfound⟩ := find_identityEquals s collection v
    exact ⟨found, hfind, hfound ▸ hidentified.length_le_one_iff rfl hunmixed v⟩
  · obtain ⟨x', hx', hxs⟩ := hidentified.scalar d hd
    cases Option.some.inj (hx.symm.trans hx')
    rw [holds_identityEquals, hx, hxs.equals_eq] at hholds
    exact insert_eq_error hy hd hx (hxs.same_of_elementType hys htype (Except.ok.inj hholds))

namespace Example

/-- An update of the fields beside the identity. -/
def titled : Document := [("$set", .document [("_idea", .null), ("title.short", .string "x")])]

/-- Identities that look alike, of which two are numbers. -/
def sevens : List StoreCall :=
  [.insert "c" [("_id", .int64 7)], .insert "c" [("_id", .string "7")],
    .insert "c" [("_id", .double ⟨0x401E000000000000⟩)]]

theorem insert_scalar {x : Bson} (hwell : x.WellKeyed) (hx : x.Scalar) :
    let call : StoreCall := .insert "c" [("_id", x)]
    call.WellKeyed ∧ call.UpdatesBy Harmless ∧ call.InsertsScalar :=
  ⟨⟨fun _ hmem => absurd hmem List.not_mem_nil, hwell, trivial⟩, trivial, x, rfl, hx⟩

theorem find_identity_sevens :
    let s := empty.after (sevens ++ [.update "c" [] titled])
    s.identities "c" =
      [some (.int64 7), some (.string "7"), some (.double ⟨0x401E000000000000⟩)] ∧
    (∃ found, s.find "c" (identityEquals (.int32 7)) 0 none = .ok found ∧
      found.documents.length ≤ 1) ∧
    s.insert "c" [("_id", .int64 7), ("title", .null)] = .error (.alreadyExists "7" "c") := by
  intro s
  have hids : s.identities "c" =
      [some (.int64 7), some (.string "7"), some (.double ⟨0x401E000000000000⟩)] := by
    show ((empty.after sevens).after [.update "c" [] titled]).identities "c" = _
    exact (identities_update (fun _ => by decide) _ "c" [] "c").trans rfl
  have hcalls : ∀ call ∈ sevens ++ [.update "c" [] titled],
      call.WellKeyed ∧ call.UpdatesBy Harmless ∧ call.InsertsScalar := by
    have htitled : titled.WellKeyed := by
      simp [titled, Document.WellKeyed, Bson.WellKeyedFields, Bson.WellKeyed]
    simp only [sevens, List.cons_append, List.nil_append, List.forall_mem_cons]
    exact ⟨insert_scalar trivial trivial, insert_scalar trivial trivial,
      insert_scalar trivial (show Double.isNaN _ = false by decide),
      ⟨htitled, fun _ => by decide, trivial⟩, fun _ hmem => absurd hmem List.not_mem_nil⟩
  have hunmixed : Unmixed (s.identities "c") := by
    rw [hids]
    rintro a b ha hb ⟨m, n, hm, hn, hequal⟩
    simp only [List.mem_cons, Option.some.injEq, List.not_mem_nil, or_false] at ha hb
    rcases ha with rfl | rfl | rfl <;> rcases hb with rfl | rfl | rfl <;>
      cases hm <;> cases hn <;> first | rfl | exact absurd hequal (by decide +kernel)
  have hone : Unambiguous (s.identities "c") (.int32 7) := by
    rintro x m n ⟨⟩
  obtain ⟨hfinds, hrefuses⟩ := find_identity hcalls "c"
  obtain ⟨found, hfound, hlength⟩ := hfinds hunmixed (.int32 7)
  obtain ⟨d, hd, hdx⟩ := mem_identities_iff.mp (hids ▸ List.mem_cons_self :
    some (.int64 7) ∈ s.identities "c")
  refine ⟨hids, ⟨found, hfound, hlength.mpr hone⟩, ?_⟩
  refine hrefuses [("_id", .int64 7), ("title", .null)] d _ (.int64 7) rfl trivial hd hdx rfl ?_
  rw [holds_identityEquals, hdx]
  rfl

/-- Two integers that are the same double. -/
def neighbours : List StoreCall :=
  [.insert "c" [("_id", .int64 9007199254740992)], .insert "c" [("_id", .int64 9007199254740993)]]

/-- The double is looked for as such, and two different identities agree with it. -/
theorem find_identity_neighbours :
    (∀ call ∈ neighbours, call.WellKeyed ∧ call.UpdatesBy Harmless ∧ call.InsertsScalar) ∧
    (Bson.double ⟨0x4340000000000000⟩).Scalar ∧
    ∃ found, (empty.after neighbours).find "c" (identityEquals (.double ⟨0x4340000000000000⟩)) 0
      none = .ok found ∧ found.documents.length = 2 := by
  refine ⟨List.forall_mem_cons.mpr ⟨insert_scalar trivial trivial,
    List.forall_mem_singleton.mpr (insert_scalar trivial trivial)⟩, ?_, ?_⟩
  · show Double.isNaN _ = false
    decide
  · obtain ⟨found, hfind, hfound⟩ := find_identityEquals (empty.after neighbours) "c"
      (.double ⟨0x4340000000000000⟩)
    refine ⟨found, hfind, ?_⟩
    rw [hfound]
    decide +kernel

end Example

end Store

end Dossier
