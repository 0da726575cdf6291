/-
# Timestamps

A timestamp counts seconds since 1970 and nanoseconds after them, in words of 64 and 32 bits.  Only
those of the years 1 to 9999 with less than a second of nanoseconds are *valid*; the words can
hold more, so every conversion checks first.

Main statements: `validate_eq_ok_iff` (what is valid), `toMillis_eq_ok_iff` (a conversion to
milliseconds fails only on what is not valid, and nothing overflows) and `compare_eq_eq_iff`.
-/
import Dossier.Error
import Dossier.Time.Instant

namespace Dossier

/-- Seconds since 1970, and nanoseconds after them. -/
structure Timestamp where
  seconds : Int64
  nanos : Int32
deriving DecidableEq, Inhabited

namespace Timestamp

/-- The first second of the year 1. -/
def firstSecond : Int := -62135596800

/-- The last second of the year 9999. -/
def lastSecond : Int := 253402300799

/-- Within the years 1 to 9999, and less than a second of nanoseconds. -/
structure Valid (t : Timestamp) : Prop where
  firstSecond_le : firstSecond ≤ t.seconds.toInt
  le_lastSecond : t.seconds.toInt ≤ lastSecond
  nanos_nonneg : 0 ≤ t.nanos.toInt
  nanos_lt : t.nanos.toInt < 1000000000

/-- Refuses what is not valid; the seconds are looked at first. -/
def validate (t : Timestamp) : Except ConversionError Unit :=
  if t.seconds.toInt < firstSecond ∨ lastSecond < t.seconds.toInt then
    .error (.badTimestamp (.secondsOutOfRange t.seconds.toInt))
  else if t.nanos.toInt < 0 ∨ 1000000000 ≤ t.nanos.toInt then
    .error (.badTimestamp (.nanosOutOfRange t.nanos.toInt))
  else .ok ()

theorem validate_eq_ok_iff {t : Timestamp} : t.validate = .ok () ↔ t.Valid := by
  unfold validate
  constructor
  · intro h
    split at h
    · cases h
    · split at h
      · cases h
      · exact ⟨by omega, by omega, by omega, by omega⟩
  · intro h
    have h1 := h.firstSecond_le
    have h2 := h.le_lastSecond
    have h3 := h.nanos_nonneg
    have h4 := h.nanos_lt
    rw [if_neg (by omega), if_neg (by omega)]

/-- Earlier or later; on timestamps that are not valid, the order of the pair of words. -/
def compare (s t : Timestamp) : Ordering :=
  (Ord.compare s.seconds.toInt t.seconds.toInt).then (Ord.compare s.nanos.toInt t.nanos.toInt)

theorem compare_eq_eq_iff {s t : Timestamp} : compare s t = .eq ↔ s = t := by
  unfold compare
  rw [Ordering.then_eq_eq, Std.LawfulEqCmp.compare_eq_iff_eq, Std.LawfulEqCmp.compare_eq_iff_eq,
    Int64.toInt_inj, Int32.toInt_inj]
  cases s
  cases t
  simp

/-! ## 1. Milliseconds -/

/-- Milliseconds since 1970, rounded down. -/
def toMillis (t : Timestamp) : Except ConversionError Int64 := do
  t.validate
  return t.seconds * 1000 + t.nanos.toInt64 / 1000000

/-- The timestamp of a number of milliseconds; its nanoseconds are never negative. -/
def ofMillis (millis : Int64) : Except ConversionError Timestamp := do
  let t : Timestamp :=
    ⟨Int64.ofInt (millis.toInt / 1000), Int32.ofInt (millis.toInt % 1000 * 1000000)⟩
  t.validate
  return t

/-- The words in which milliseconds are counted do not overflow on a valid timestamp. -/
theorem Valid.toInt_millis {t : Timestamp} (h : t.Valid) :
    (t.seconds * 1000 + t.nanos.toInt64 / 1000000).toInt =
      t.seconds.toInt * 1000 + t.nanos.toInt / 1000000 := by
  have h1 := h.firstSecond_le
  have h2 := h.le_lastSecond
  have h3 := h.nanos_nonneg
  have h4 := h.nanos_lt
  unfold firstSecond at h1
  unfold lastSecond at h2
  have hdiv : (t.nanos.toInt64 / 1000000).toInt = t.nanos.toInt / 1000000 := by
    rw [Int64.toInt_div, Int32.toInt_toInt64]
    have : (1000000 : Int64).toInt = 1000000 := by decide
    rw [this, Int.tdiv_eq_ediv_of_nonneg h3, Int.bmod_eq_of_le (by omega) (by omega)]
  have hmul : (t.seconds * 1000).toInt = t.seconds.toInt * 1000 := by
    rw [Int64.toInt_mul]
    have : (1000 : Int64).toInt = 1000 := by decide
    rw [this, Int.bmod_eq_of_le (by omega) (by omega)]
  rw [Int64.toInt_add, hdiv, hmul, Int.bmod_eq_of_le (by omega) (by omega)]

theorem toMillis_eq_ok_iff {t : Timestamp} {millis : Int64} :
    t.toMillis = .ok millis ↔
      t.Valid ∧ millis.toInt = t.seconds.toInt * 1000 + t.nanos.toInt / 1000000 := by
  unfold toMillis
  rw [← validate_eq_ok_iff]
  cases hv : t.validate with
  | error e => simp [bind, Except.bind]
  | ok u =>
    have valid : t.Valid := validate_eq_ok_iff.1 hv
    simp only [bind, Except.bind, pure, Except.pure, Except.ok.injEq, true_and]
    rw [← valid.toInt_millis, Int64.toInt_inj]
    exact eq_comm

/-! ## 2. Instants -/

/-- The instant of a valid timestamp. -/
def toInstant (t : Timestamp) : Except ConversionError Instant := do
  t.validate
  match Instant.ofSeconds? t.seconds.toInt t.nanos.toInt.toNat with
  | some instant => .ok instant
  | none => .error (.badTimestamp (.unrepresentable t.seconds.toInt t.nanos.toInt))

/-- The timestamp of an instant, which is not valid in a leap second or outside its years. -/
def ofInstant (t : Instant) : Timestamp := ⟨Int64.ofInt t.seconds, Int32.ofNat t.nanos⟩

end Timestamp

end Dossier
