/-
# Timestamps, milliseconds and instants

Every timestamp has a number, its nanoseconds since 1970 (`Timestamp.total`), and on valid
timestamps the conversions are arithmetic on it.  Milliseconds are the number over a million,
rounded down (`toMillis_eq_ok_iff_total`), a number of milliseconds is the timestamp of a million
times as many nanoseconds (`ofMillis_eq_ok_iff`), and the order of the pairs of words is the order
of the numbers (`Proper.compare_eq`).  The words that these are counted in never leave their range:
what is multiplied or cast has been checked before, or is bounded by a remainder.

Main statement: `Timestamp.conversions_exact`.
-/
import Dossier.Proofs.Time.Years

namespace Dossier

namespace Timestamp

/-! ## 1. The number of a timestamp -/

/-- Nanoseconds since 1970. -/
def total (t : Timestamp) : Int := t.seconds.toInt * 1000000000 + t.nanos.toInt

/-- The nanoseconds are less than a second. -/
def Proper (t : Timestamp) : Prop := 0 ≤ t.nanos.toInt ∧ t.nanos.toInt < 1000000000

theorem Valid.proper {t : Timestamp} (h : t.Valid) : t.Proper := ⟨h.nanos_nonneg, h.nanos_lt⟩

/-- What is proper is valid in the years 1 to 9999. -/
theorem Proper.valid_iff {t : Timestamp} (h : t.Proper) :
    t.Valid ↔ firstSecond * 1000000000 ≤ t.total ∧
      t.total < (lastSecond + 1) * 1000000000 := by
  obtain ⟨h3, h4⟩ := h
  unfold total
  constructor
  · rintro ⟨h1, h2, -, -⟩
    omega
  · rintro ⟨h1, h2⟩
    exact ⟨by omega, by omega, h3, h4⟩

/-- A proper timestamp has the seconds and nanoseconds of its number, so no other has the same. -/
theorem Proper.eq_of_total_eq {s t : Timestamp} (hs : s.Proper) (ht : t.Proper)
    (h : s.total = t.total) : s = t := by
  obtain ⟨hs3, hs4⟩ := hs
  obtain ⟨ht3, ht4⟩ := ht
  unfold total at h
  have hseconds : s.seconds = t.seconds := Int64.toInt_inj.mp (by omega)
  have hnanos : s.nanos = t.nanos := Int32.toInt_inj.mp (by omega)
  cases s
  cases t
  rw [mk.injEq]
  exact ⟨hseconds, hnanos⟩

/-- **The order of the words is the order in time.** -/
theorem Proper.compare_eq {s t : Timestamp} (hs : s.Proper) (ht : t.Proper) :
    compare s t = Ord.compare s.total t.total := by
  obtain ⟨hs3, hs4⟩ := hs
  obtain ⟨ht3, ht4⟩ := ht
  unfold compare total
  rcases Int.lt_trichotomy s.seconds.toInt t.seconds.toInt with hlt | heq | hgt
  · rw [Int.compare_eq_lt.mpr hlt, Ordering.lt_then, Int.compare_eq_lt.mpr (by omega)]
  · rw [heq, Int.compare_eq_eq.mpr rfl, Ordering.eq_then]
    rcases Int.lt_trichotomy s.nanos.toInt t.nanos.toInt with hlt | heq | hgt
    · rw [Int.compare_eq_lt.mpr hlt, Int.compare_eq_lt.mpr (by omega)]
    · rw [heq, Int.compare_eq_eq.mpr rfl, Int.compare_eq_eq.mpr rfl]
    · rw [Int.compare_eq_gt.mpr hgt, Int.compare_eq_gt.mpr (by omega)]
  · rw [Int.compare_eq_gt.mpr hgt, Ordering.gt_then, Int.compare_eq_gt.mpr (by omega)]

/-! ## 2. Milliseconds of a timestamp -/

/-- What follows the check is reached exactly on what is valid. -/
theorem validate_bind_eq_ok_iff {α : Type} {t : Timestamp} {next : Except ConversionError α}
    {a : α} : (t.validate >>= fun _ => next) = .ok a ↔ t.Valid ∧ next = .ok a := by
  rw [← validate_eq_ok_iff]
  cases t.validate with
  | error e => exact iff_of_false nofun nofun
  | ok _ => exact (and_iff_right rfl).symm

theorem toMillis_eq_ok_iff_total {t : Timestamp} {millis : Int64} :
    t.toMillis = .ok millis ↔ t.Valid ∧ millis.toInt = t.total / 1000000 := by
  rw [toMillis_eq_ok_iff]
  refine and_congr_right fun _ => ?_
  unfold total
  rw [show (t.seconds.toInt * 1000000000 + t.nanos.toInt) / 1000000 =
    t.seconds.toInt * 1000 + t.nanos.toInt / 1000000 by omega]

/-- Milliseconds fail if the check does, and as it does. -/
theorem toMillis_eq_error_iff {t : Timestamp} {e : ConversionError} :
    t.toMillis = .error e ↔ t.validate = .error e := by
  unfold toMillis
  cases t.validate with
  | error _ => simp [bind, Except.bind]
  | ok _ => exact iff_of_false nofun nofun

/-- The product that milliseconds begin with does not overflow. -/
theorem Valid.toInt_seconds_mul {t : Timestamp} (h : t.Valid) :
    (t.seconds * 1000).toInt = t.seconds.toInt * 1000 := by
  have h1 := h.firstSecond_le
  have h2 := h.le_lastSecond
  unfold firstSecond at h1
  unfold lastSecond at h2
  rw [Int64.toInt_mul, show (1000 : Int64).toInt = 1000 by decide]
  exact Int.bmod_eq_of_le (by omega) (by omega)

/-- Nor does the quotient; it is rounded down, as there are no negative nanoseconds. -/
theorem Valid.toInt_nanos_div {t : Timestamp} (h : t.Valid) :
    (t.nanos.toInt64 / 1000000).toInt = t.nanos.toInt / 1000000 := by
  have h3 := h.nanos_nonneg
  have h4 := h.nanos_lt
  rw [Int64.toInt_div, Int32.toInt_toInt64, show (1000000 : Int64).toInt = 1000000 by decide,
    Int.tdiv_eq_ediv_of_nonneg h3]
  exact Int.bmod_eq_of_le (by omega) (by omega)

theorem Valid.exists_toMillis {t : Timestamp} (h : t.Valid) :
    ∃ millis, t.toMillis = .ok millis ∧ millis.toInt = t.total / 1000000 := by
  have hmillis : t.toMillis = .ok (t.seconds * 1000 + t.nanos.toInt64 / 1000000) :=
    toMillis_eq_ok_iff.mpr ⟨h, h.toInt_millis⟩
  exact ⟨_, hmillis, (toMillis_eq_ok_iff_total.mp hmillis).2⟩

/-! ## 3. The timestamp of milliseconds -/

/-- The seconds of a number of milliseconds, and the nanoseconds after them. -/
def wordsOf (millis : Int64) : Timestamp :=
  ⟨Int64.ofInt (millis.toInt / 1000), Int32.ofInt (millis.toInt % 1000 * 1000000)⟩

/-- The words have room for the quotient, and for what the remainder counts. -/
theorem toInt_wordsOf (millis : Int64) :
    (wordsOf millis).seconds.toInt = millis.toInt / 1000 ∧
      (wordsOf millis).nanos.toInt = millis.toInt % 1000 * 1000000 := by
  have h1 := millis.le_toInt
  have h2 := millis.toInt_lt
  exact ⟨Int64.toInt_ofInt_of_le (by omega) (by omega),
    Int32.toInt_ofInt_of_le (by omega) (by omega)⟩

theorem total_wordsOf (millis : Int64) : (wordsOf millis).total = millis.toInt * 1000000 := by
  obtain ⟨hseconds, hnanos⟩ := toInt_wordsOf millis
  rw [total, hseconds, hnanos]
  omega

theorem proper_wordsOf (millis : Int64) : (wordsOf millis).Proper := by
  obtain ⟨-, hnanos⟩ := toInt_wordsOf millis
  rw [Proper, hnanos]
  omega

/-- **The timestamp of a number of milliseconds** is the valid one of a million times as many
nanoseconds. -/
theorem ofMillis_eq_ok_iff {millis : Int64} {t : Timestamp} :
    ofMillis millis = .ok t ↔ t.Valid ∧ t.total = millis.toInt * 1000000 := by
  show ((wordsOf millis).validate >>= fun _ => .ok (wordsOf millis)) = .ok t ↔ _
  rw [validate_bind_eq_ok_iff, Except.ok.injEq]
  constructor
  · rintro ⟨hvalid, rfl⟩
    exact ⟨hvalid, total_wordsOf millis⟩
  · rintro ⟨hvalid, htotal⟩
    have heq : wordsOf millis = t := (proper_wordsOf millis).eq_of_total_eq hvalid.proper
      ((total_wordsOf millis).trans htotal.symm)
    exact ⟨heq ▸ hvalid, heq⟩

/-- The timestamp of milliseconds has these milliseconds. -/
theorem toMillis_ofMillis {millis : Int64} {t : Timestamp} (h : ofMillis millis = .ok t) :
    t.toMillis = .ok millis := by
  obtain ⟨hvalid, htotal⟩ := ofMillis_eq_ok_iff.mp h
  refine toMillis_eq_ok_iff_total.mpr ⟨hvalid, ?_⟩
  rw [htotal]
  omega

/-- The milliseconds that have a timestamp are those of the years 1 to 9999. -/
theorem exists_ofMillis_iff {millis : Int64} :
    (∃ t, ofMillis millis = .ok t) ↔
      firstSecond * 1000 ≤ millis.toInt ∧ millis.toInt ≤ lastSecond * 1000 + 999 := by
  have hvalid := (proper_wordsOf millis).valid_iff
  rw [total_wordsOf] at hvalid
  have hexists : (∃ t, ofMillis millis = .ok t) ↔ (wordsOf millis).Valid := by
    simp only [ofMillis_eq_ok_iff]
    constructor
    · rintro ⟨t, ht, htotal⟩
      rwa [(proper_wordsOf millis).eq_of_total_eq ht.proper
        ((total_wordsOf millis).trans htotal.symm)]
    · intro h
      exact ⟨_, h, total_wordsOf millis⟩
  rw [hexists, hvalid]
  omega

/-! ## 4. Instants -/

/-- A valid timestamp is the timestamp of an instant. -/
theorem Valid.exists_toInstant {t : Timestamp} (h : t.Valid) :
    ∃ instant, t.toInstant = .ok instant ∧ ofInstant instant = t := by
  have h1 := h.firstSecond_le
  have h2 := h.le_lastSecond
  have h3 := h.nanos_nonneg
  have h4 := h.nanos_lt
  unfold firstSecond at h1
  unfold lastSecond at h2
  have hinstant := Instant.ofSeconds?_self
    ⟨t.seconds.toInt, t.nanos.toInt.toNat, by omega, by omega, by omega, by omega⟩
  refine ⟨_, validate_bind_eq_ok_iff.mpr ⟨h, by rw [hinstant]⟩, ?_⟩
  show (⟨Int64.ofInt t.seconds.toInt, Int32.ofNat t.nanos.toInt.toNat⟩ : Timestamp) = t
  have hnanos : Int32.ofNat t.nanos.toInt.toNat = t.nanos := by
    rw [← Int32.toInt_inj, Int32.toInt_ofNat_of_lt (by omega), Int.toNat_of_nonneg h3]
  rw [Int64.ofInt_toInt, hnanos]

/-! ## 5. Together -/

/-- **Timestamps convert exactly, and no word overflows.**  A number of milliseconds has a timestamp
exactly if it is of the years 1 to 9999; the timestamp is valid, and its milliseconds are that
number.  A timestamp has milliseconds unless the check fails, and then it fails in the same way; the
words that they are counted in hold the exact numbers, and they lead back to the timestamp with its
nanoseconds rounded down to a million.  Of two valid timestamps the one that does not come later has
no more milliseconds.  Every valid timestamp is the timestamp of its instant. -/
theorem conversions_exact :
    (∀ millis : Int64,
      ((∃ t, ofMillis millis = .ok t) ↔
        firstSecond * 1000 ≤ millis.toInt ∧ millis.toInt ≤ lastSecond * 1000 + 999) ∧
      ∀ t, ofMillis millis = .ok t → t.validate = .ok () ∧ t.toMillis = .ok millis) ∧
    (∀ t : Timestamp,
      (∀ e, t.toMillis = .error e ↔ t.validate = .error e) ∧
      ∀ millis, t.toMillis = .ok millis →
        (t.seconds * 1000).toInt = t.seconds.toInt * 1000 ∧
        (t.nanos.toInt64 / 1000000).toInt = t.nanos.toInt / 1000000 ∧
        millis.toInt = (t.seconds * 1000).toInt + (t.nanos.toInt64 / 1000000).toInt ∧
        ∃ nanos : Int32, nanos.toInt = t.nanos.toInt / 1000000 * 1000000 ∧
          ofMillis millis = .ok ⟨t.seconds, nanos⟩) ∧
    (∀ s t : Timestamp, s.Valid → t.Valid → compare s t ≠ .gt →
      ∃ m n, s.toMillis = .ok m ∧ t.toMillis = .ok n ∧ m ≤ n) ∧
    ∀ t : Timestamp, t.Valid → ∃ instant, t.toInstant = .ok instant ∧ ofInstant instant = t := by
  refine ⟨fun millis => ⟨exists_ofMillis_iff, fun t h => ?_⟩,
    fun t => ⟨fun e => toMillis_eq_error_iff, fun millis h => ?_⟩, fun s t hs ht h => ?_,
    fun t h => h.exists_toInstant⟩
  · exact ⟨validate_eq_ok_iff.mpr (ofMillis_eq_ok_iff.mp h).1, toMillis_ofMillis h⟩
  · obtain ⟨hvalid, hmillis⟩ := toMillis_eq_ok_iff.mp h
    rw [hvalid.toInt_seconds_mul, hvalid.toInt_nanos_div]
    exact ⟨rfl, rfl, hmillis, t.floored.nanos, hvalid.toInt_nanos_floored,
      ofMillis_toMillis_floored h⟩
  · obtain ⟨m, hm, hmtotal⟩ := hs.exists_toMillis
    obtain ⟨n, hn, hntotal⟩ := ht.exists_toMillis
    refine ⟨m, n, hm, hn, Int64.le_iff_toInt_le.mpr ?_⟩
    rw [hs.proper.compare_eq ht.proper, Int.compare_ne_gt] at h
    omega

namespace Example

/-- The first and the last timestamp, and one before 1970 that is finer than a millisecond. -/
theorem conversions_exact_ends :
    (∃ t, ofMillis (-62135596800000) = .ok t) ∧ (¬ ∃ t, ofMillis (-62135596800001) = .ok t) ∧
      (∃ t, ofMillis 253402300799999 = .ok t) ∧ (¬ ∃ t, ofMillis 253402300800000 = .ok t) ∧
      ∃ m n, (⟨-1, 999999999⟩ : Timestamp).toMillis = .ok m ∧
        (⟨253402300799, 999999999⟩ : Timestamp).toMillis = .ok n ∧ m ≤ n := by
  obtain ⟨hofMillis, -, hmono, -⟩ := conversions_exact
  refine ⟨(hofMillis _).1.mpr (by decide), fun h => absurd ((hofMillis _).1.mp h) (by decide),
    (hofMillis _).1.mpr (by decide), fun h => absurd ((hofMillis _).1.mp h) (by decide),
    hmono _ _ ⟨by decide, by decide, by decide, by decide⟩
      ⟨by decide, by decide, by decide, by decide⟩ (by decide)⟩

end Example

end Timestamp

end Dossier
