/-
# Points in time at millisecond resolution

A stored date counts milliseconds, so what a point in time has below a millisecond is lost when it
is stored.  `floored` is what is left: the latest whole millisecond that is not after it.  Seconds
are kept and nanoseconds are never negative, so before 1970 too the rounding is downwards.

Main statements: `total_floored` (what a floor is) and `ofMillis_toMillis_floored` (what comes back
from milliseconds is the floored point), for instants and for timestamps.
-/
import Dossier.Time.Timestamp

namespace Dossier

/-! ## 1. Instants -/

namespace Instant

/-- The latest whole millisecond that is not after the instant. -/
def floored (t : Instant) : Instant where
  seconds := t.seconds
  nanos := t.nanos / 1000000 * 1000000
  first_le := t.first_le
  le_last := t.le_last
  nanos_lt := Nat.lt_of_le_of_lt (Nat.div_mul_le_self t.nanos 1000000) t.nanos_lt
  leap h := t.leap (Nat.le_trans h (Nat.div_mul_le_self t.nanos 1000000))

@[simp] theorem seconds_floored (t : Instant) : t.floored.seconds = t.seconds := rfl

@[simp] theorem nanos_floored (t : Instant) :
    t.floored.nanos = t.nanos / 1000000 * 1000000 := rfl

/-- Counted in nanoseconds, the floor is the next multiple of a million downwards. -/
theorem total_floored (t : Instant) :
    t.floored.seconds * 1000000000 + t.floored.nanos =
      (t.seconds * 1000000000 + t.nanos) / 1000000 * 1000000 := by
  rw [seconds_floored, nanos_floored]
  omega

@[simp] theorem toMillis_floored (t : Instant) : t.floored.toMillis = t.toMillis := by
  unfold toMillis
  rw [seconds_floored, nanos_floored]
  omega

/-- Outside leap seconds, the milliseconds of an instant lead back to its floor. -/
theorem ofMillis_toMillis_floored {t : Instant} (ordinary : t.nanos < 1000000000) :
    ofMillis t.toMillis = t.floored := by
  rw [← toMillis_floored]
  refine ofMillis_toMillis ?_ ?_
  · rw [nanos_floored]
    omega
  · rw [nanos_floored]
    omega

theorem toInt_ofInt_toMillis (t : Instant) : (Int64.ofInt t.toMillis).toInt = t.toMillis := by
  obtain ⟨hlow, hhigh⟩ := t.toMillis_bounds
  exact Int64.toInt_ofInt_of_le (by omega) (by omega)

end Instant

/-! ## 2. Timestamps -/

namespace Timestamp

/-- The latest whole millisecond that is not after the timestamp. -/
def floored (t : Timestamp) : Timestamp :=
  ⟨t.seconds, Int32.ofInt (t.nanos.toInt / 1000000 * 1000000)⟩

theorem Valid.toInt_nanos_floored {t : Timestamp} (h : t.Valid) :
    t.floored.nanos.toInt = t.nanos.toInt / 1000000 * 1000000 := by
  have h1 := h.nanos_nonneg
  have h2 := h.nanos_lt
  exact Int32.toInt_ofInt_of_le (by omega) (by omega)

/-- Counted in nanoseconds, the floor is the next multiple of a million downwards. -/
theorem Valid.total_floored {t : Timestamp} (h : t.Valid) :
    t.floored.seconds.toInt * 1000000000 + t.floored.nanos.toInt =
      (t.seconds.toInt * 1000000000 + t.nanos.toInt) / 1000000 * 1000000 := by
  rw [h.toInt_nanos_floored]
  show t.seconds.toInt * 1000000000 + _ = _
  omega

theorem Valid.floored {t : Timestamp} (h : t.Valid) : t.floored.Valid where
  firstSecond_le := h.firstSecond_le
  le_lastSecond := h.le_lastSecond
  nanos_nonneg := by
    have := h.nanos_nonneg
    rw [h.toInt_nanos_floored]
    omega
  nanos_lt := by
    have := h.nanos_lt
    rw [h.toInt_nanos_floored]
    omega

/-- If a timestamp has milliseconds at all, they lead back to its floor. -/
theorem ofMillis_toMillis_floored {t : Timestamp} {millis : Int64} (h : t.toMillis = .ok millis) :
    ofMillis millis = .ok t.floored := by
  obtain ⟨hvalid, hmillis⟩ := toMillis_eq_ok_iff.mp h
  have h1 := hvalid.nanos_nonneg
  have h2 := hvalid.nanos_lt
  have hseconds : millis.toInt / 1000 = t.seconds.toInt := by omega
  have hnanos : millis.toInt % 1000 = t.nanos.toInt / 1000000 := by omega
  unfold ofMillis
  rw [hseconds, hnanos, Int64.ofInt_toInt]
  show (t.floored.validate >>= fun _ => .ok t.floored) = .ok t.floored
  rw [validate_eq_ok_iff.mpr hvalid.floored]
  rfl

end Timestamp

end Dossier
