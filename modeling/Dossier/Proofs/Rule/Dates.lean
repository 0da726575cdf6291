/-
# The two rules for points in time

Timestamps and instants are both stored as dates, by rules that compute them in different ways: the
one by words of seconds and nanoseconds that are checked, the other by the calendar, which is wider
and keeps to its ends.  On what the first rule takes, they agree.

* They write the same dates, and what reads as a timestamp reads as the instant of that timestamp.
  What reads as an instant alone is outside the years 1 to 9999 or in a leap second
  (`rules_agree`).
* The rule for timestamps reads what it has written of a timestamp or an instant, rounded down to
  milliseconds.  A value that is a date already is written without a look at it, and if it is
  outside those years it cannot be read again (`readsBack_iff`).
-/
import Dossier.Proofs.Converter.Mismatch
import Dossier.Proofs.Time.Conversion

namespace Dossier

/-! ## 1. Timestamps of instants -/

namespace Timestamp

theorem total_ofInstant (t : Instant) : (ofInstant t).total = t.seconds * 1000000000 + t.nanos := by
  rw [total, toInt_seconds_ofInstant, toInt_nanos_ofInstant]

/-- **A date reads as a timestamp exactly if that of the instant it reads as is valid.**  An instant
at an end of the calendar, which stands for all dates beyond, has no valid timestamp. -/
theorem ofMillis_eq_ok_iff_instant {millis : Int64} {t : Timestamp} :
    ofMillis millis = .ok t ↔ t.Valid ∧ t = ofInstant (Instant.ofMillis millis.toInt) := by
  rw [ofMillis_eq_ok_iff]
  refine and_congr_right fun hvalid => ?_
  by_cases hrange : -8334601228800000 ≤ millis.toInt ∧ millis.toInt ≤ 8210266876799999
  · obtain ⟨hseconds, hnanos⟩ := Instant.ofMillis_seconds hrange.1 hrange.2
    have hproper : (ofInstant (Instant.ofMillis millis.toInt)).Proper := by
      rw [Proper, toInt_nanos_ofInstant, hnanos]
      omega
    have htotal : (ofInstant (Instant.ofMillis millis.toInt)).total = millis.toInt * 1000000 := by
      rw [total_ofInstant, hseconds, hnanos]
      omega
    exact ⟨fun h => hvalid.proper.eq_of_total_eq hproper (h.trans htotal.symm),
      fun h => h ▸ htotal⟩
  · have hyears := hvalid.proper.valid_iff.mp hvalid
    unfold firstSecond lastSecond at hyears
    have hends : Instant.ofMillis millis.toInt = .first ∨
        Instant.ofMillis millis.toInt = .last := by
      unfold Instant.ofMillis
      split
      · exact .inl rfl
      · split
        · exact .inr rfl
        · omega
    refine iff_of_false (by omega) fun h => ?_
    rw [h, total_ofInstant] at hyears
    rcases hends with hend | hend <;>
    · rw [hend] at hyears
      exact absurd hyears (by decide)

end Timestamp

namespace TypeRule

/-! ## 2. The rules agree -/

theorem map_date_eq_ok_iff {result : Except ConversionError Int64} {stored : Bson} :
    result.map Bson.date = .ok stored ↔ ∃ millis, result = .ok millis ∧ stored = .date millis := by
  cases result <;> simp [Except.map, eq_comm]

/-- What reads as a timestamp is what reads as an instant with a valid timestamp. -/
theorem decodeTimestamp_eq_ok_iff_instant {stored : Bson} {value : Value} :
    decodeTimestamp stored = .ok value ↔ ∃ t, decodeInstant stored = .ok (.instant t) ∧
      (Timestamp.ofInstant t).Valid ∧ value = .timestamp (Timestamp.ofInstant t) := by
  rw [decodeTimestamp_eq_ok_iff]
  simp only [decodeInstant_eq_ok_iff]
  constructor
  · intro h
    cases h with
    | timestamp h =>
      obtain ⟨hvalid, rfl⟩ := Timestamp.ofMillis_eq_ok_iff_instant.mp h
      exact ⟨_, .instant _, hvalid, rfl⟩
    | timestampText h hvalid => exact ⟨_, .instantText h, hvalid, rfl⟩
  · rintro ⟨t, h, hvalid, rfl⟩
    cases h with
    | instant millis => exact .timestamp (Timestamp.ofMillis_eq_ok_iff_instant.mpr ⟨hvalid, rfl⟩)
    | instantText h => exact .timestampText h hvalid

/-- Whatever reads as an instant at all is a date or a text, so as a timestamp it is no mismatch. -/
theorem badTimestamp_of_decodeInstant_eq_ok {stored : Bson} {value : Value} {e : ConversionError}
    (hinstant : decodeInstant stored = .ok value) (h : decodeTimestamp stored = .error e) :
    ∃ fault, e = .badTimestamp fault := by
  refine badTimestamp_of_decodeTimestamp ?_ h
  cases stored with
  | date millis => rfl
  | string text => rfl
  | _ => cases hinstant

/-- **The two rules agree.**  What the rule for timestamps writes of an instant, the rule for
instants writes too.  What reads as a timestamp reads as an instant of that timestamp.  What reads
as an instant fails to read as a timestamp exactly if the instant is outside the years 1 to 9999 or
in a leap second, and what is reported then is a bad timestamp. -/
theorem rules_agree :
    (∀ t stored, timestamp.encode (.instant t) = .ok stored →
      instant.encode (.instant t) = .ok stored) ∧
    (∀ stored type other t, timestamp.decode stored type = .ok (.timestamp t) →
      ∃ i, instant.decode stored other = .ok (.instant i) ∧ Timestamp.ofInstant i = t) ∧
    ∀ stored type other value, instant.decode stored other = .ok value →
      ∃ i, value = .instant i ∧
        ((∃ e, timestamp.decode stored type = .error e) ↔
          ¬ i.InYears ∨ i.isLeapSecond = true) ∧
        ∀ e, timestamp.decode stored type = .error e → ∃ fault, e = .badTimestamp fault := by
  refine ⟨fun t stored h => ?_, fun stored _ _ t h => ?_, fun stored _ _ value h => ?_⟩
  · obtain ⟨millis, hmillis, rfl⟩ := map_date_eq_ok_iff.mp h
    obtain ⟨hvalid, -⟩ := Timestamp.toMillis_eq_ok_iff.mp hmillis
    cases (Timestamp.toMillis_ofInstant hvalid).symm.trans hmillis
    rfl
  · obtain ⟨i, hinstant, -, hvalue⟩ := decodeTimestamp_eq_ok_iff_instant.mp h
    cases hvalue
    exact ⟨i, hinstant, rfl⟩
  · obtain ⟨i, rfl⟩ : ∃ i, value = .instant i := by
      cases decodeInstant_eq_ok_iff.mp h <;> exact ⟨_, rfl⟩
    refine ⟨i, rfl, ?_, fun e => badTimestamp_of_decodeInstant_eq_ok h⟩
    have hreads : (∃ kept, decodeTimestamp stored = .ok kept) ↔
        i.InYears ∧ i.isLeapSecond = false := by
      rw [← Timestamp.valid_ofInstant_iff]
      constructor
      · rintro ⟨kept, hkept⟩
        obtain ⟨j, hj, hvalid, -⟩ := decodeTimestamp_eq_ok_iff_instant.mp hkept
        cases hj.symm.trans h
        exact hvalid
      · exact fun hvalid => ⟨_, decodeTimestamp_eq_ok_iff_instant.mpr ⟨i, h, hvalid, rfl⟩⟩
    calc (∃ e, decodeTimestamp stored = .error e)
        ↔ ¬ ∃ kept, decodeTimestamp stored = .ok kept := exists_error_iff.trans not_exists.symm
      _ ↔ ¬ i.InYears ∨ i.isLeapSecond = true := by
        rw [hreads, not_and_or, Bool.not_eq_false]

namespace Example

/-- A date before 1970 reads alike; a leap second reads as an instant and as no timestamp. -/
theorem rules_agree_edges :
    (∃ i, instant.decode (.date (-1)) .instant = .ok (.instant i) ∧
      Timestamp.ofInstant i = ⟨-1, 999000000⟩) ∧
    ∃ i fault, instant.decode (.string "2016-12-31T23:59:60Z") .instant = .ok (.instant i) ∧
      timestamp.decode (.string "2016-12-31T23:59:60Z") .timestamp =
        .error (.badTimestamp fault) := by
  obtain ⟨-, hreads, hfails⟩ := rules_agree
  refine ⟨hreads (.date (-1)) .timestamp .instant ⟨-1, 999000000⟩ (by rfl), ?_⟩
  have hparse : Instant.parse? "2016-12-31T23:59:60Z" =
      some ⟨1483228799, 1000000000, by decide, by decide, by decide, by decide⟩ := by
    decide +kernel
  have hleap : instant.decode (.string "2016-12-31T23:59:60Z") .instant = .ok (.instant _) :=
    decodeInstant_eq_ok_iff.mpr (.instantText hparse)
  obtain ⟨i, hi, hiff, hfault⟩ := hfails _ .timestamp _ _ hleap
  cases hi
  obtain ⟨e, he⟩ := hiff.mpr (.inr rfl)
  obtain ⟨fault, rfl⟩ := hfault e he
  exact ⟨_, fault, hleap, he⟩

end Example

end TypeRule

/-! ## 3. What the rule for timestamps reads back -/

/-- The first nanosecond of the year 1, counted from 1970. -/
def firstTotal : Int := CivilDate.toDays ⟨1, 1, 1⟩ * 86400 * 1000000000

/-- The last nanosecond of the year 9999, counted from 1970. -/
def lastTotal : Int := (CivilDate.toDays ⟨9999, 12, 31⟩ + 1) * 86400 * 1000000000 - 1

/-- The number of nanoseconds since 1970 is in the years 1 to 9999. -/
def WithinYears (total : Int) : Prop := firstTotal ≤ total ∧ total ≤ lastTotal

instance (total : Int) : Decidable (WithinYears total) := inferInstanceAs (Decidable (_ ∧ _))

theorem withinYears_iff {total : Int} :
    WithinYears total ↔ Timestamp.firstSecond * 1000000000 ≤ total ∧
      total < (Timestamp.lastSecond + 1) * 1000000000 := by
  have hfirst : firstTotal = Timestamp.firstSecond * 1000000000 := by decide
  have hlast : lastTotal = (Timestamp.lastSecond + 1) * 1000000000 - 1 := by decide
  rw [WithinYears, hfirst, hlast]
  omega

theorem Timestamp.valid_iff_withinYears {t : Timestamp} :
    t.Valid ↔ WithinYears t.total ∧ t.Proper := by
  rw [withinYears_iff]
  exact ⟨fun h => ⟨h.proper.valid_iff.mp h, h.proper⟩, fun h => h.2.valid_iff.mpr h.1⟩

theorem Timestamp.exists_ofMillis_iff_withinYears {millis : Int64} :
    (∃ t, Timestamp.ofMillis millis = .ok t) ↔ WithinYears (millis.toInt * 1000000) := by
  rw [exists_ofMillis_iff, withinYears_iff]
  omega

namespace Value

/-- The nanoseconds since 1970 of a value that is a point in time. -/
def total? : Value → Option Int
  | .timestamp t => some (t.seconds.toInt * 1000000000 + t.nanos.toInt)
  | .instant t => some (t.seconds * 1000000000 + t.nanos)
  | .date millis => some (millis.toInt * 1000000)
  | _ => none

/-- The value counts less than a second in nanoseconds: it is in no leap second, and its words mean
what they say. -/
def Proper : Value → Prop
  | .timestamp t => 0 ≤ t.nanos.toInt ∧ t.nanos.toInt < 1000000000
  | .instant t => t.nanos < 1000000000
  | _ => True

instance : (value : Value) → Decidable value.Proper
  | .timestamp _ => inferInstanceAs (Decidable (_ ∧ _))
  | .instant _ => inferInstanceAs (Decidable (_ < _))
  | .null | .bool _ | .int32 _ | .int64 _ | .double _ | .string _ | .date _ | .seq _ | .record _
  | .custom _ => inferInstanceAs (Decidable True)

/-- The rule for timestamps reads back what it writes of a point in time: what it writes is in the
years 1 to 9999 and reads as the timestamp of that time, rounded down to whole milliseconds, and a
time outside those years it does not write. -/
def ReadsBack (value : Value) (total : Int) : Prop :=
  (∀ stored, TypeRule.timestamp.encode value = .ok stored → WithinYears total ∧
    ∃ t : Timestamp, t.Valid ∧ t.total = total / 1000000 * 1000000 ∧
      ∀ type, TypeRule.timestamp.decode stored type = .ok (.timestamp t)) ∧
  (¬ WithinYears total → ∃ fault, TypeRule.timestamp.encode value = .error (.badTimestamp fault))

end Value

namespace TypeRule

/-- A value that is written through a timestamp is read back, and it is written if the timestamp is
valid. -/
theorem readsBack_of_timestamp {value : Value} {t : Timestamp}
    (h : timestamp.encode value = t.toMillis.map .date) :
    value.ReadsBack t.total ∧ ((∃ stored, timestamp.encode value = .ok stored) ↔ t.Valid) ∧
      ∀ e, timestamp.encode value = .error e → ∃ fault, e = .badTimestamp fault := by
  have hstored : (∃ stored, timestamp.encode value = .ok stored) ↔ t.Valid := by
    simp only [h, map_date_eq_ok_iff]
    constructor
    · rintro ⟨stored, millis, hmillis, -⟩
      exact (Timestamp.toMillis_eq_ok_iff.mp hmillis).1
    · intro hvalid
      obtain ⟨millis, hmillis, -⟩ := hvalid.exists_toMillis
      exact ⟨_, millis, hmillis, rfl⟩
  have herror : ∀ e, timestamp.encode value = .error e → ∃ fault, e = .badTimestamp fault := by
    intro e he
    rw [h] at he
    exact Timestamp.badTimestamp_of_validate
      (Timestamp.toMillis_eq_error_iff.mp (bind_pure_eq_error_iff.mp he))
  refine ⟨⟨fun stored hencode => ?_, fun hyears => ?_⟩, hstored, herror⟩
  · obtain ⟨millis, hmillis, rfl⟩ := map_date_eq_ok_iff.mp (h ▸ hencode)
    obtain ⟨hvalid, -⟩ := Timestamp.toMillis_eq_ok_iff.mp hmillis
    refine ⟨(Timestamp.valid_iff_withinYears.mp hvalid).1, t.floored, hvalid.floored,
      hvalid.total_floored, fun _ => ?_⟩
    show (Timestamp.ofMillis millis).map Value.timestamp = _
    rw [Timestamp.ofMillis_toMillis_floored hmillis]
    rfl
  · have hinvalid : ¬ t.Valid := fun hvalid => hyears (Timestamp.valid_iff_withinYears.mp hvalid).1
    obtain ⟨e, he⟩ := exists_error_iff.mpr (not_exists.mp (mt hstored.mp hinvalid))
    obtain ⟨fault, rfl⟩ := herror e he
    exact ⟨fault, he⟩

/-- A date is written as it is, so it is read back exactly if it is in the years 1 to 9999. -/
theorem readsBack_date_iff {millis : Int64} :
    (Value.date millis).ReadsBack (millis.toInt * 1000000) ↔
      WithinYears (millis.toInt * 1000000) := by
  constructor
  · exact fun h => (h.1 _ rfl).1
  · intro hyears
    obtain ⟨t, ht⟩ := Timestamp.exists_ofMillis_iff_withinYears.mpr hyears
    obtain ⟨hvalid, htotal⟩ := Timestamp.ofMillis_eq_ok_iff.mp ht
    refine ⟨fun stored hencode => ?_, fun h => absurd hyears h⟩
    cases hencode
    refine ⟨hyears, t, hvalid, by omega, fun _ => ?_⟩
    show (Timestamp.ofMillis millis).map Value.timestamp = _
    rw [ht]
    rfl

/-- A point in time is written through a timestamp, or is a date. -/
theorem through_timestamp_or_date {value : Value} {total : Int} (h : value.total? = some total) :
    (∃ t : Timestamp, t.total = total ∧ timestamp.encode value = t.toMillis.map .date ∧
      (value.Proper ↔ t.Proper) ∧ ∀ millis, value ≠ .date millis) ∨
    ∃ millis, value = .date millis ∧ total = millis.toInt * 1000000 := by
  cases value with
  | timestamp t =>
    cases h
    exact .inl ⟨t, rfl, rfl, Iff.rfl, nofun⟩
  | instant t =>
    cases h
    refine .inl ⟨.ofInstant t, Timestamp.total_ofInstant t, rfl, ?_, nofun⟩
    rw [Timestamp.Proper, Timestamp.toInt_nanos_ofInstant, Value.Proper]
    omega
  | date millis =>
    cases h
    exact .inr ⟨millis, rfl, rfl⟩
  | _ => cases h

/-- **The rule for timestamps reads back what it writes, dates outside the years 1 to 9999 apart.**
It writes every date, and of timestamps and instants those that are in these years and proper; all
others are bad timestamps.  What it writes of a time outside these years is a date, which does not
read as a timestamp. -/
theorem readsBack_iff {value : Value} {total : Int} (h : value.total? = some total) :
    (value.ReadsBack total ↔ WithinYears total ∨ ∀ millis, value ≠ .date millis) ∧
    ((∃ stored, timestamp.encode value = .ok stored) ↔
      (∃ millis, value = .date millis) ∨ WithinYears total ∧ value.Proper) ∧
    (∀ e, timestamp.encode value = .error e → ∃ fault, e = .badTimestamp fault) ∧
    ∀ stored type, timestamp.encode value = .ok stored → ¬ WithinYears total →
      ∃ fault, timestamp.decode stored type = .error (.badTimestamp fault) := by
  obtain ⟨t, rfl, hencode, hproper, hdate⟩ | ⟨millis, rfl, rfl⟩ := through_timestamp_or_date h
  · obtain ⟨hback, hstored, herror⟩ := readsBack_of_timestamp hencode
    have hnoDate : ¬ ∃ millis, value = .date millis := fun ⟨millis, heq⟩ => hdate millis heq
    rw [Timestamp.valid_iff_withinYears, ← hproper] at hstored
    exact ⟨iff_of_true hback (.inr hdate), hstored.trans (or_iff_right hnoDate).symm, herror,
      fun stored _ hok hyears => absurd (hback.1 stored hok).1 hyears⟩
  · refine ⟨?_, iff_of_true ⟨_, rfl⟩ (.inl ⟨_, rfl⟩), nofun, fun stored type hencode hyears => ?_⟩
    · rw [readsBack_date_iff, or_iff_left fun hdate => hdate millis rfl]
    · cases hencode
      obtain ⟨e, he⟩ := exists_error_iff.mpr
        (not_exists.mp (mt Timestamp.exists_ofMillis_iff_withinYears.mp hyears))
      obtain ⟨fault, rfl⟩ := Timestamp.badTimestamp_of_ofMillis he
      refine ⟨fault, ?_⟩
      show (Timestamp.ofMillis millis).map Value.timestamp = _
      rw [he]
      rfl

namespace Example

/-- The first date after the year 9999 is written, and cannot be read again. -/
theorem not_readsBack_laterDate :
    ¬ ∀ value total, value.total? = some total → Value.ReadsBack value total := by
  intro h
  have hback := h (.date 253402300800000) 253402300800000000000 rfl
  exact absurd (hback.1 _ rfl).1 (by decide)

/-- The last nanosecond before 1970 reads as the millisecond that it is in. -/
theorem readsBack_beforeEpoch :
    (Value.instant ⟨-1, 999999999, by decide, by decide, by decide, by decide⟩).total? = some (-1) ∧
      ∃ stored t, timestamp.encode (.instant ⟨-1, 999999999, by decide, by decide, by decide,
          by decide⟩) = .ok stored ∧
        timestamp.decode stored .timestamp = .ok (.timestamp t) ∧ t.total = -1000000 := by
  have htotal : (Value.instant ⟨-1, 999999999, by decide, by decide, by decide,
      by decide⟩).total? = some (-1) := rfl
  obtain ⟨hback, hstored, -, -⟩ := readsBack_iff htotal
  obtain ⟨stored, hstored⟩ := hstored.mpr (.inr ⟨by decide, by decide⟩)
  obtain ⟨-, t, -, hfloor, hdecode⟩ := (hback.mpr (.inr nofun)).1 stored hstored
  exact ⟨htotal, stored, t, hstored, hdecode _, hfloor⟩

end Example

end TypeRule

end Dossier
