/-
# A repository behaves like a map

Every run of requests on a repository over an empty store gives the replies that the register gives
(`serve_eq`), and leaves the documents of the register's entries.

The invariant is `Mirrors`: the documents of the collection, in their order, stand for records whose
identities differ, and the register has these records and no others.  That the identities differ is
what ties the operations together.  An insertion looks for the same identity among all documents,
while reading, updating and deleting take the first document that agrees with a literal; only
because there is at most one such document do they all mean the same record.
-/
import Dossier.Proofs.Repository.Calls
import Dossier.Proofs.Repository.Documents
import Dossier.Proofs.Store.Calls

namespace Dossier

namespace Repository

/-! ## 1. Requests that a repository can serve -/

/-- The literal is that of a value of the identity field. -/
def Identifies (r : Repository) (identity : FieldDescriptor) (id : Literal) : Prop :=
  ∃ value, Value.HasType r.types identity.type value ∧ value.literal = id

/-- The records of a request can be stored, and its identity is one that a record can have. -/
def Request.Admissible (r : Repository) (identity : FieldDescriptor) : Request → Prop
  | .create values => r.Storable values
  | .read id => r.Identifies identity id
  | .update id values => r.Identifies identity id ∧ r.Storable values
  | .delete id => r.Identifies identity id

section

/-! ## 2. Documents that mirror a register -/

/-- The documents stand for the records, whose identities differ, and the register has these
records and no others. -/
structure Mirrors (r : Repository) (descriptor : RecordDescriptor) (identity : FieldDescriptor)
    (ds : List Document) (m : Register) (records : List (Literal × List Value)) : Prop where
  keeps : List.Forall₂ (r.Keeps descriptor identity) ds records
  nodup : (records.map Prod.fst).Nodup
  lookup : ∀ key, m.lookup key = records.lookup key

variable {r : Repository} {descriptor : RecordDescriptor} {place : Nat} {identity : FieldDescriptor}
variable {ds : List Document} {m : Register} {records : List (Literal × List Value)}

/-! ## 3. Records and their documents -/

theorem lookup_eq_none_of_notMem {key : Literal} (h : key ∉ records.map Prod.fst) :
    records.lookup key = none :=
  List.lookup_eq_none_iff.mpr fun _ hmem => bne_iff_ne.mpr fun e =>
    h (e ▸ List.mem_map_of_mem hmem)

/-- Other identities are looked up past a record. -/
theorem lookup_middle {before after : List (Literal × List Value)} {key : Literal}
    (hfresh : key ∉ before.map Prod.fst) (entry : List Value) (k : Literal) :
    (before ++ (key, entry) :: after).lookup k =
      if k = key then some entry else (before ++ after).lookup k := by
  rw [List.lookup_append, List.lookup_append, List.lookup_cons]
  by_cases hk : k = key
  · subst hk
    rw [if_pos rfl, beq_self_eq_true, lookup_eq_none_of_notMem hfresh]
    rfl
  · rw [if_neg hk, beq_false_of_ne hk]

/-- A record that is found stands in its place among the others, and so does its document. -/
theorem exists_split (h : List.Forall₂ (r.Keeps descriptor identity) ds records) {key : Literal}
    {entry : List Value} (hlookup : records.lookup key = some entry) :
    ∃ before d after recordsBefore recordsAfter, ds = before ++ d :: after ∧
      records = recordsBefore ++ (key, entry) :: recordsAfter ∧
      List.Forall₂ (r.Keeps descriptor identity) before recordsBefore ∧
      r.Keeps descriptor identity d (key, entry) ∧
      List.Forall₂ (r.Keeps descriptor identity) after recordsAfter := by
  induction h with
  | nil => cases hlookup
  | @cons d record ds records hfirst hrest ih =>
    obtain ⟨k, values⟩ := record
    rw [List.lookup_cons] at hlookup
    by_cases hk : key = k
    · subst hk
      rw [beq_self_eq_true] at hlookup
      cases hlookup
      exact ⟨[], d, ds, [], records, rfl, rfl, .nil, hfirst, hrest⟩
    · rw [beq_false_of_ne hk] at hlookup
      obtain ⟨before, found, after, recordsBefore, recordsAfter, rfl, rfl, hbefore, hfound,
        hafter⟩ := ih hlookup
      exact ⟨d :: before, found, after, (k, values) :: recordsBefore, recordsAfter, rfl, rfl,
        .cons hfirst hbefore, hfound, hafter⟩

/-- Documents of other identities do not answer to a literal. -/
theorem holds_of_notMem (h : List.Forall₂ (r.Keeps descriptor identity) ds records) {value : Value}
    (hvalue : Value.Plain identity.type value)
    (hkey : value.literal.atMillis ∉ records.map Prod.fst) :
    ∀ d ∈ ds, Query.holds d value.literal.identityQuery = .ok false := by
  induction h with
  | nil => exact fun _ hmem => absurd hmem List.not_mem_nil
  | cons hfirst _ ih =>
    rw [List.map_cons, List.mem_cons, not_or] at hkey
    refine List.forall_mem_cons.mpr ⟨?_, ih hkey.2⟩
    rw [hfirst.holds_identityQuery hvalue, decide_eq_false (Ne.symm hkey.1)]

/-- The identity of a new document is looked for among all others. -/
theorem holdsIdentity_eq (h : List.Forall₂ (r.Keeps descriptor identity) ds records)
    {stored : Bson} {key : Literal} (hkeyed : stored.Keyed identity.type key) :
    Store.holdsIdentity stored ds = decide (key ∈ records.map Prod.fst) := by
  unfold Store.holdsIdentity
  induction h with
  | nil => rfl
  | @cons d record _ _ hfirst _ ih =>
    obtain ⟨other, hother, hotherKeyed⟩ := hfirst.identity
    have hsame : other.same stored = decide (key = record.1) := by
      rw [Bool.eq_iff_iff, hotherKeyed.same_iff hkeyed, decide_eq_true_iff, eq_comm]
    rw [List.any_cons, ih, hother, List.map_cons]
    show (other.same stored || _) = _
    rw [hsame, ← Bool.decide_or]
    exact decide_eq_decide.mpr List.mem_cons.symm

namespace Mirrors

/-- The identity of a record stands nowhere else. -/
theorem notMem_others {key : Literal} {entry : List Value}
    {recordsBefore recordsAfter : List (Literal × List Value)}
    (hm : r.Mirrors descriptor identity ds m (recordsBefore ++ (key, entry) :: recordsAfter)) :
    key ∉ recordsBefore.map Prod.fst ∧ key ∉ (recordsBefore ++ recordsAfter).map Prod.fst ∧
      ((recordsBefore ++ recordsAfter).map Prod.fst).Nodup := by
  have hnodup := hm.nodup
  rw [List.map_append, List.map_cons, List.nodup_middle, List.nodup_cons, ← List.map_append]
    at hnodup
  refine ⟨fun hmem => hnodup.1 ?_, hnodup⟩
  rw [List.map_append]
  exact List.mem_append_left _ hmem

/-- A record of the register is the first, and the only one, that answers to its literal. -/
theorem exists_first (hm : r.Mirrors descriptor identity ds m records) {value : Value}
    (hvalue : Value.Plain identity.type value) {entry : List Value}
    (hlookup : m.lookup value.literal.atMillis = some entry) :
    ∃ before d after recordsBefore recordsAfter, ds = before ++ d :: after ∧
      records = recordsBefore ++ (value.literal.atMillis, entry) :: recordsAfter ∧
      List.Forall₂ (r.Keeps descriptor identity) before recordsBefore ∧
      r.Keeps descriptor identity d (value.literal.atMillis, entry) ∧
      List.Forall₂ (r.Keeps descriptor identity) after recordsAfter ∧
      Query.First value.literal.identityQuery before d := by
  rw [hm.lookup] at hlookup
  obtain ⟨before, d, after, recordsBefore, recordsAfter, hds, rfl, hbefore, hd, hafter⟩ :=
    exists_split hm.keeps hlookup
  obtain ⟨hfresh, -, -⟩ := hm.notMem_others
  refine ⟨before, d, after, recordsBefore, recordsAfter, hds, rfl, hbefore, hd, hafter,
    holds_of_notMem hbefore hvalue hfresh, ?_⟩
  rw [hd.holds_identityQuery hvalue, decide_eq_true rfl]

theorem mem_iff (hm : r.Mirrors descriptor identity ds m records) {key : Literal} :
    key ∈ m ↔ key ∈ records.map Prod.fst := by
  rw [← not_iff_not, ← Finmap.lookup_eq_none, hm.lookup]
  refine ⟨fun h hmem => ?_, lookup_eq_none_of_notMem⟩
  obtain ⟨record, hrecord, rfl⟩ := List.mem_map.mp hmem
  exact bne_iff_ne.mp (List.lookup_eq_none_iff.mp h _ hrecord) rfl

/-- Of an identity that the register does not have there is no document. -/
theorem holds_of_lookup_eq_none (hm : r.Mirrors descriptor identity ds m records) {value : Value}
    (hvalue : Value.Plain identity.type value)
    (hlookup : m.lookup value.literal.atMillis = none) :
    ∀ d ∈ ds, Query.holds d value.literal.identityQuery = .ok false :=
  holds_of_notMem hm.keeps hvalue fun hmem =>
    Finmap.lookup_eq_none.mp hlookup (hm.mem_iff.mpr hmem)

theorem insert (hm : r.Mirrors descriptor identity ds m records) {d : Document} {key : Literal}
    {entry : List Value} (hd : r.Keeps descriptor identity d (key, entry)) (hkey : key ∉ m) :
    r.Mirrors descriptor identity (ds ++ [d]) (m.insert key entry) (records ++ [(key, entry)]) := by
  have hfresh : key ∉ records.map Prod.fst := fun hmem => hkey (hm.mem_iff.mpr hmem)
  refine ⟨List.rel_append hm.keeps (.cons hd .nil), ?_, fun k => ?_⟩
  · rw [List.map_append, List.map_cons, List.map_nil, List.nodup_append_comm]
    exact List.nodup_cons.mpr ⟨hfresh, hm.nodup⟩
  · rw [lookup_middle hfresh, List.append_nil, ← hm.lookup]
    by_cases hk : k = key
    · rw [if_pos hk, hk, Finmap.lookup_insert]
    · rw [if_neg hk, Finmap.lookup_insert_of_ne m hk]

section

variable {before after : List Document} {d : Document} {key : Literal} {entry : List Value}
variable {recordsBefore recordsAfter : List (Literal × List Value)}

/-- Putting another document of the same identity in the place of one changes one record. -/
theorem replace
    (hm : r.Mirrors descriptor identity ds m (recordsBefore ++ (key, entry) :: recordsAfter))
    (hbefore : List.Forall₂ (r.Keeps descriptor identity) before recordsBefore)
    (hafter : List.Forall₂ (r.Keeps descriptor identity) after recordsAfter) {values : List Value}
    (hd : r.Keeps descriptor identity d (key, values)) :
    r.Mirrors descriptor identity (before ++ d :: after) (m.insert key values)
      (recordsBefore ++ (key, values) :: recordsAfter) := by
  obtain ⟨hfresh, -, -⟩ := hm.notMem_others
  refine ⟨List.rel_append hbefore (.cons hd hafter), ?_, fun k => ?_⟩
  · have hnodup := hm.nodup
    rwa [List.map_append, List.map_cons] at hnodup ⊢
  · rw [lookup_middle hfresh]
    by_cases hk : k = key
    · rw [if_pos hk, hk, Finmap.lookup_insert]
    · rw [if_neg hk, Finmap.lookup_insert_of_ne m hk, hm.lookup, lookup_middle hfresh, if_neg hk]

/-- Taking a document out takes its record out. -/
theorem erase
    (hm : r.Mirrors descriptor identity ds m (recordsBefore ++ (key, entry) :: recordsAfter))
    (hbefore : List.Forall₂ (r.Keeps descriptor identity) before recordsBefore)
    (hafter : List.Forall₂ (r.Keeps descriptor identity) after recordsAfter) :
    r.Mirrors descriptor identity (before ++ after) (m.erase key)
      (recordsBefore ++ recordsAfter) := by
  obtain ⟨hfresh, hothers, hnodup⟩ := hm.notMem_others
  refine ⟨List.rel_append hbefore hafter, hnodup, fun k => ?_⟩
  by_cases hk : k = key
  · rw [hk, Finmap.lookup_erase, lookup_eq_none_of_notMem hothers]
  · rw [Finmap.lookup_erase_ne hk, hm.lookup, lookup_middle hfresh, if_neg hk]

end

end Mirrors

/-! ## 4. Single requests -/

/-- What a step of the repository and a step of the register have in common: the reply, and that
the documents after it mirror the register after it. -/
def Agrees (r : Repository) (descriptor : RecordDescriptor) (identity : FieldDescriptor)
    (concrete : Except StoreError Reply × Store) (abstract : Except StoreError Reply × Register) :
    Prop :=
  concrete.1 = abstract.1 ∧ ∃ records,
    r.Mirrors descriptor identity (concrete.2.documents r.collection) abstract.2 records

variable {s : Store}

theorem agrees_put {reply : Except StoreError Reply}
    (h : r.Mirrors descriptor identity ds m records) :
    r.Agrees descriptor identity (reply, s.put r.collection ds) (reply, m) :=
  ⟨rfl, records, (s.documents_put_self r.collection ds).symm ▸ h⟩

theorem Keyed.plain_of_hasType (hr : r.Keyed descriptor place identity) {value : Value}
    (h : Value.HasType r.types identity.type value) : Value.Plain identity.type value := by
  have htype := hr.type
  generalize identity.type = type at h htype
  cases h with
  | plain h => exact h
  | _ => simp [FieldType.identifying] at htype

/-- A new record is added, unless its identity is there. -/
theorem agrees_create (hr : r.Keyed descriptor place identity)
    (hm : r.Mirrors descriptor identity (s.documents r.collection) m records)
    {values : List Value} (hvalues : r.Storable values) :
    r.Agrees descriptor identity (((Request.create values).procedure r).run Store.service s)
      (m.step r place (.create values)) := by
  obtain ⟨d, hencode⟩ := hvalues.encodes
  obtain ⟨entry, hentry, hkeeps⟩ := keeps_of_encode hr hvalues.typed hvalues.ordinary hencode
  obtain ⟨stored, hstored, hkeyed⟩ := hkeeps.identity
  have hheld : Store.holdsIdentity stored (s.documents r.collection) =
      decide ((identityOf place values).atMillis ∈ m) :=
    (holdsIdentity_eq hm.keeps hkeyed).trans (decide_eq_decide.mpr hm.mem_iff.symm)
  have hinsert : s.insert r.collection d =
      if Store.holdsIdentity stored (s.documents r.collection) then
        .error (.alreadyExists stored.toText r.collection)
      else .ok (s.put r.collection (s.documents r.collection ++ [d])) := by
    unfold Store.insert
    rw [hstored]
    rfl
  by_cases hmem : (identityOf place values).atMillis ∈ m
  · rw [hheld, decide_eq_true hmem, if_pos rfl, hkeyed.toText_eq] at hinsert
    have hrun : ((Request.create values).procedure r).run Store.service s =
        (.error (.alreadyExists (identityOf place values).atMillis.toBson.toText r.collection),
          s) :=
      Procedure.run_bind_error (run_create_error hencode hinsert)
    rw [hrun, Register.step_create hentry, if_pos hmem]
    exact ⟨rfl, records, hm⟩
  · rw [hheld, decide_eq_false hmem, if_neg Bool.false_ne_true] at hinsert
    have hrun : ((Request.create values).procedure r).run Store.service s =
        (.ok .done, s.put r.collection (s.documents r.collection ++ [d])) :=
      Procedure.run_bind_ok (run_create_ok hencode hinsert)
    rw [hrun, Register.step_create hentry, if_neg hmem]
    exact agrees_put (hm.insert hkeeps hmem)

/-- The record of an identity is found, if the register has one. -/
theorem run_read (hr : r.Keyed descriptor place identity)
    (hm : r.Mirrors descriptor identity (s.documents r.collection) m records)
    {value : Value} (hvalue : Value.Plain identity.type value) :
    (r.read value.literal).run Store.service s =
      (match m.lookup value.literal.atMillis with
        | some entry => .ok entry
        | none => .error (.notFound value.literal.toText r.collection), s) := by
  cases hlookup : m.lookup value.literal.atMillis with
  | none =>
    obtain ⟨total, hfind⟩ :=
      Store.find_of_forall (hm.holds_of_lookup_eq_none hvalue hlookup) 0 (some 1)
    exact run_read_missing hr.identityKey hfind
  | some entry =>
    obtain ⟨before, d, after, _, _, hds, -, -, hd, -, hfirst⟩ := hm.exists_first hvalue hlookup
    obtain ⟨total, hfind⟩ :=
      Store.find_of_first (fun d _ => Literal.holds_identityQuery d value.literal) hds hfirst
    exact run_read_found hr.identityKey hfind (hd.decode_eq hr)

theorem agrees_read (hr : r.Keyed descriptor place identity)
    (hm : r.Mirrors descriptor identity (s.documents r.collection) m records) {id : Literal}
    (hid : r.Identifies identity id) :
    r.Agrees descriptor identity (((Request.read id).procedure r).run Store.service s)
      (m.step r place (.read id)) := by
  obtain ⟨value, htype, rfl⟩ := hid
  have hread := run_read hr hm (hr.plain_of_hasType htype)
  rw [Register.step_read]
  cases hlookup : m.lookup value.literal.atMillis with
  | none =>
    rw [hlookup] at hread
    have hrun : ((Request.read value.literal).procedure r).run Store.service s = _ :=
      Procedure.run_bind_error hread
    rw [hrun]
    exact ⟨rfl, records, hm⟩
  | some entry =>
    rw [hlookup] at hread
    have hrun : ((Request.read value.literal).procedure r).run Store.service s = _ :=
      Procedure.run_bind_ok hread
    rw [hrun]
    exact ⟨rfl, records, hm⟩

/-- The supplied values replace those of the record, if there are any and there is one. -/
theorem agrees_update (hr : r.Keyed descriptor place identity)
    (hm : r.Mirrors descriptor identity (s.documents r.collection) m records) {id : Literal}
    (hid : r.Identifies identity id) {values : List Value} (hvalues : r.Storable values) :
    r.Agrees descriptor identity (((Request.update id values).procedure r).run Store.service s)
      (m.step r place (.update id values)) := by
  obtain ⟨value, htype, rfl⟩ := hid
  have hvalue := hr.plain_of_hasType htype
  obtain ⟨new, hencode⟩ := hvalues.encodes
  obtain ⟨entry, hentry, hkeeps⟩ := keeps_of_encode hr hvalues.typed hvalues.ordinary hencode
  have hempty := hkeeps.isEmpty_suppliedFields hr
  rw [Register.step_update hentry]
  cases hnull : (supplied place entry).all Value.isNull with
  | true =>
    rw [hnull] at hempty
    have hrun : ((Request.update value.literal values).procedure r).run Store.service s =
        (.error (.invalidDocument .emptyUpdate), s) :=
      Procedure.run_bind_error (run_update_empty hencode hempty)
    rw [hrun, if_pos rfl]
    exact ⟨rfl, records, hm⟩
  | false =>
    rw [hnull] at hempty
    rw [if_neg Bool.false_ne_true]
    cases hlookup : m.lookup value.literal.atMillis with
    | none =>
      have hupdate := Store.update_of_forall (hm.holds_of_lookup_eq_none hvalue hlookup)
        [("$set", .document (r.suppliedFields new))]
      have hrun : ((Request.update value.literal values).procedure r).run Store.service s =
          (.error (.notFound value.literal.toText r.collection), s) :=
        Procedure.run_bind_error (run_update hr.identityKey hencode hempty hupdate)
      rw [hrun]
      exact ⟨rfl, records, hm⟩
    | some old =>
      obtain ⟨before, d, after, recordsBefore, recordsAfter, hds, rfl, hbefore, hd, hafter,
        hfirst⟩ := hm.exists_first hvalue hlookup
      have hchanged := Store.applyUpdate_set
        (fun key hkey => (hkeeps.suppliedFields_keys hr hkey).2) d
      have hupdate := Store.update_of_first hds hfirst hchanged
      have hrun : ((Request.update value.literal values).procedure r).run Store.service s =
          (.ok .done, s.put r.collection
            (before ++ d.insertAll (r.suppliedFields new) :: after)) :=
        Procedure.run_bind_ok (run_update hr.identityKey hencode hempty hupdate)
      rw [hrun]
      exact agrees_put (hm.replace hbefore hafter (hd.merge hr hkeeps))

/-- The record is given as it was read, and its document is taken out. -/
theorem agrees_delete (hr : r.Keyed descriptor place identity)
    (hm : r.Mirrors descriptor identity (s.documents r.collection) m records) {id : Literal}
    (hid : r.Identifies identity id) :
    r.Agrees descriptor identity (((Request.delete id).procedure r).run Store.service s)
      (m.step r place (.delete id)) := by
  obtain ⟨value, htype, rfl⟩ := hid
  have hvalue := hr.plain_of_hasType htype
  have hread := run_read hr hm hvalue
  rw [Register.step_delete]
  cases hlookup : m.lookup value.literal.atMillis with
  | none =>
    rw [hlookup] at hread
    have hrun : ((Request.delete value.literal).procedure r).run Store.service s =
        (.error (.notFound value.literal.toText r.collection), s) :=
      Procedure.run_bind_error (run_delete_missing hread)
    rw [hrun]
    exact ⟨rfl, records, hm⟩
  | some entry =>
    rw [hlookup] at hread
    obtain ⟨before, d, after, recordsBefore, recordsAfter, hds, rfl, hbefore, -, hafter,
      hfirst⟩ := hm.exists_first hvalue hlookup
    have hrun : ((Request.delete value.literal).procedure r).run Store.service s =
        (.ok (.record entry), s.put r.collection (before ++ after)) :=
      Procedure.run_bind_ok
        (run_delete_found hr.identityKey hread (Store.delete_of_first hds hfirst))
    rw [hrun]
    exact agrees_put (hm.erase hbefore hafter)

/-- **One request.**  Whatever is asked, the repository replies as the register does, and its
documents mirror the register again. -/
theorem agrees_step (hr : r.Keyed descriptor place identity)
    (hm : r.Mirrors descriptor identity (s.documents r.collection) m records) {request : Request}
    (hrequest : request.Admissible r identity) :
    r.Agrees descriptor identity ((request.procedure r).run Store.service s)
      (m.step r place request) := by
  cases request with
  | create values => exact agrees_create hr hm hrequest
  | read id => exact agrees_read hr hm hrequest
  | update id values => exact agrees_update hr hm hrequest.1 hrequest.2
  | delete id => exact agrees_delete hr hm hrequest

/-! ## 5. Runs -/

theorem mirrors_empty (r : Repository) (descriptor : RecordDescriptor)
    (identity : FieldDescriptor) : r.Mirrors descriptor identity [] ∅ [] :=
  ⟨.nil, List.nodup_nil, fun _ => rfl⟩

theorem agrees_serve (hr : r.Keyed descriptor place identity) {requests : List Request}
    (hrequests : ∀ request ∈ requests, request.Admissible r identity)
    (hm : r.Mirrors descriptor identity (s.documents r.collection) m records) :
    (r.serve requests s).1 = (m.serve r place requests).1 ∧ ∃ records',
      r.Mirrors descriptor identity ((r.serve requests s).2.documents r.collection)
        (m.serve r place requests).2 records' := by
  induction requests generalizing s m records with
  | nil => exact ⟨rfl, records, hm⟩
  | cons request rest ih =>
    obtain ⟨hrequest, hrest⟩ := List.forall_mem_cons.mp hrequests
    obtain ⟨hreply, records', hm'⟩ := agrees_step hr hm hrequest
    obtain ⟨hreplies, hfinal⟩ := ih hrest hm'
    exact ⟨List.cons_eq_cons.mpr ⟨hreply, hreplies⟩, hfinal⟩

/-- The document is stored under the record's identity, has the fields of the descriptor and no
others, and reads as the record. -/
structure Shows (r : Repository) (descriptor : RecordDescriptor) (d : Document)
    (record : Literal × List Value) : Prop where
  keys : d.keys = descriptor.keys
  identity : ∃ stored, d.get? storeIdentityKey = some stored ∧ Literal.ofBson stored = .ok record.1
  decodes : r.converter.decode r.types r.record d = .ok record.2

theorem Keeps.shows (hr : r.Keyed descriptor place identity) {d : Document}
    {record : Literal × List Value} (h : r.Keeps descriptor identity d record) :
    r.Shows descriptor d record := by
  obtain ⟨stored, hstored, hkeyed⟩ := h.identity
  exact ⟨h.keys, ⟨stored, hstored, hkeyed.ofBson_eq⟩, h.decode_eq hr⟩

/-- **A repository behaves like a map.**  Over an empty store, every run of requests is replied to
as by the register, and in the end the documents of the collection show the register's records, each
identity once. -/
theorem serve_eq (hr : r.Keyed descriptor place identity) {requests : List Request}
    (hrequests : ∀ request ∈ requests, request.Admissible r identity) :
    (r.serve requests Store.empty).1 = (Register.serve r place ∅ requests).1 ∧
      ∃ records : List (Literal × List Value),
        List.Forall₂ (r.Shows descriptor)
          ((r.serve requests Store.empty).2.documents r.collection) records ∧
        (records.map Prod.fst).Nodup ∧
        ∀ key, (Register.serve r place ∅ requests).2.lookup key = records.lookup key := by
  obtain ⟨hreplies, records, hm⟩ :=
    agrees_serve (s := Store.empty) hr hrequests (mirrors_empty r descriptor identity)
  exact ⟨hreplies, records, hm.keeps.imp fun _ _ h => h.shows hr, hm.nodup, hm.lookup⟩

end

/-! ## 6. A run -/

namespace Example

/-- Events, identified by the instant at which they happen. -/
def events : Repository where
  types := fun _ =>
    ⟨"Event", [⟨"at", .instant, none, true⟩, ⟨"label", .optional .string, none, false⟩,
      ⟨"count", .int32, some "n", false⟩], false⟩
  record := 0
  collection := "events"

def identity : FieldDescriptor := ⟨"at", .instant, "_id"⟩

def descriptor : RecordDescriptor :=
  ⟨"Event", [identity, ⟨"label", .optional .string, "label"⟩, ⟨"count", .int32, "n"⟩], some 0⟩

/-- The last nanosecond of a millisecond before 1970. -/
def late : Instant := ⟨-2, 345999999, by decide, by decide, by decide, by decide⟩

/-- Earlier, in the same millisecond. -/
def early : Instant := ⟨-2, 345000001, by decide, by decide, by decide, by decide⟩

def requests : List Request :=
  [.create [.instant late, .string "a", .int32 1], .create [.instant early, .null, .int32 2],
    .update (.instant early) [.instant late, .null, .int32 3], .delete (.instant late),
    .read (.instant early)]

theorem keyed : events.Keyed descriptor 0 identity :=
  ⟨rfl, rfl, rfl, rfl, rfl, rfl, by decide, by decide⟩

theorem storable (t : Instant) (ht : t.nanos < 1000000000) (n : Int32) {label : Value}
    (hlabel : label = .null ∨ label = .string "a") :
    events.Storable [.instant t, label, .int32 n] := by
  have htyped : label.HasType events.types (.optional .string) := by
    rcases hlabel with rfl | rfl
    · exact .absent _
    · exact .present (.plain (.string "a"))
  have hordinary : label.Ordinary := by rcases hlabel with rfl | rfl <;> trivial
  obtain ⟨stored, hstored⟩ : ∃ stored, encodeValue events.types TypeRule.standard
      (nestedDescriptor events.types) (.optional .string) label = .ok stored := by
    rcases hlabel with rfl | rfl
    · exact ⟨.null, encodeValue_optional_null _⟩
    · exact ⟨.string "a", by rw [encodeValue_optional rfl, encodeValue_string]⟩
  have hcount : encodeValue events.types TypeRule.standard (nestedDescriptor events.types)
      .int32 (.int32 n) = .ok (.int32 n) := by
    rw [encodeValue.eq_def]
    rfl
  refine ⟨.cons (.plain (.instant t)) (.cons htyped (.cons (.plain (.int32 n)) .nil)),
    ⟨ht, hordinary, trivial, trivial⟩,
    [("_id", .date (Int64.ofInt t.toMillis)), ("label", stored), ("n", .int32 n)], ?_⟩
  exact Converter.encode_of_entries keyed.described rfl
    (.cons ⟨rfl, encodeValue_instant t⟩ (.cons ⟨rfl, hstored⟩ (.cons ⟨rfl, hcount⟩ .nil)))

theorem identifies (t : Instant) : events.Identifies identity (.instant t) :=
  ⟨.instant t, .plain (.instant t), rfl⟩

theorem admissible : ∀ request ∈ requests, request.Admissible events identity := by
  simp only [requests, List.forall_mem_cons, List.not_mem_nil, false_implies, implies_true,
    and_true]
  exact ⟨storable late (by decide) 1 (Or.inr rfl), storable early (by decide) 2 (Or.inl rfl),
    ⟨identifies early, storable late (by decide) 3 (Or.inl rfl)⟩, identifies late,
    identifies early⟩

/-- A second event in the same millisecond is refused, and the first one answers to both
instants. -/
theorem serve_events :
    events.Keyed descriptor 0 identity ∧
      (∀ request ∈ requests, request.Admissible events identity) ∧
      (events.serve requests Store.empty).1 =
        [.ok .done,
          .error (.alreadyExists "DateTime(\"1969-12-31 23:59:58.345 +00:00:00\")" "events"),
          .ok .done, .ok (.record [.instant late.floored, .string "a", .int32 3]),
          .error (.notFound "1969-12-31T23:59:58.345Z" "events")] :=
  ⟨keyed, admissible, (serve_eq keyed admissible).1.trans rfl⟩

end Example

end Repository

end Dossier
