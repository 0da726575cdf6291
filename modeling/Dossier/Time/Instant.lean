/-
# Instants

A point of universal time, as whole seconds since 1970 rounded down and the nanoseconds after
them.  A leap second is written by nanoseconds beyond a whole second, and only after second 59.
The years reach from -262143 to 262142.

Stored dates count milliseconds in 64 bits and reach much further, so `Instant.ofMillis` keeps to
the nearer end of the range.  Main statements: `toMillis_ofMillis` (inside the range nothing is
lost) and `ofMillis_toMillis` (whole milliseconds outside leap seconds come back).
-/
import Dossier.Time.Calendar

namespace Dossier

/-- A point of universal time, to the nanosecond. -/
structure Instant where
  seconds : Int
  nanos : Nat
  first_le : -8334601228800 ≤ seconds := by decide
  le_last : seconds ≤ 8210266876799 := by decide
  nanos_lt : nanos < 2000000000 := by decide
  /-- Nanoseconds beyond a second are a leap second's, and follow second 59. -/
  leap : 1000000000 ≤ nanos → seconds % 60 = 59 := by decide
deriving DecidableEq

namespace Instant

/-- The start of the year -262143. -/
def first : Instant := ⟨-8334601228800, 0, by decide, by decide, by decide, by decide⟩

/-- The last nanosecond of the year 262142. -/
def last : Instant := ⟨8210266876799, 999999999, by decide, by decide, by decide, by decide⟩

instance : Inhabited Instant := ⟨⟨0, 0, by decide, by decide, by decide, by decide⟩⟩

/-- The instant of seconds and nanoseconds, if it is one. -/
def ofSeconds? (seconds : Int) (nanos : Nat) : Option Instant :=
  if h : -8334601228800 ≤ seconds ∧ seconds ≤ 8210266876799 ∧ nanos < 2000000000 ∧
      (1000000000 ≤ nanos → seconds % 60 = 59) then
    some ⟨seconds, nanos, h.1, h.2.1, h.2.2.1, h.2.2.2⟩
  else none

theorem ofSeconds?_self (t : Instant) : ofSeconds? t.seconds t.nanos = some t := by
  unfold ofSeconds?
  rw [dif_pos ⟨t.first_le, t.le_last, t.nanos_lt, t.leap⟩]

def isLeapSecond (t : Instant) : Bool := decide (1000000000 ≤ t.nanos)

/-- Earlier or later; a leap second comes after all of second 59. -/
def compare (s t : Instant) : Ordering :=
  (Ord.compare s.seconds t.seconds).then (Ord.compare s.nanos t.nanos)

/-! ## 1. Milliseconds -/

/-- Milliseconds since 1970, rounded down. -/
def toMillis (t : Instant) : Int := t.seconds * 1000 + t.nanos / 1000000

/-- The instant of a number of milliseconds, or the end of the range that is nearer to it. -/
def ofMillis (millis : Int) : Instant :=
  if below : millis < -8334601228800000 then first
  else if above : 8210266876799999 < millis then last
  else
    ⟨millis / 1000, (millis % 1000).toNat * 1000000, by omega, by omega, by omega, by omega⟩

theorem ofMillis_seconds {millis : Int} (low : -8334601228800000 ≤ millis)
    (high : millis ≤ 8210266876799999) :
    (ofMillis millis).seconds = millis / 1000 ∧
      (ofMillis millis).nanos = (millis % 1000).toNat * 1000000 := by
  unfold ofMillis
  rw [dif_neg (by omega), dif_neg (by omega)]
  exact ⟨rfl, rfl⟩

theorem toMillis_ofMillis {millis : Int} (low : -8334601228800000 ≤ millis)
    (high : millis ≤ 8210266876799999) : (ofMillis millis).toMillis = millis := by
  obtain ⟨hs, hn⟩ := ofMillis_seconds low high
  simp only [toMillis, hs, hn]
  omega

theorem ofMillis_toMillis {t : Instant} (whole : t.nanos % 1000000 = 0)
    (ordinary : t.nanos < 1000000000) : ofMillis t.toMillis = t := by
  have h1 := t.first_le
  have h2 := t.le_last
  have low : -8334601228800000 ≤ t.toMillis := by unfold toMillis; omega
  have high : t.toMillis ≤ 8210266876799999 := by unfold toMillis; omega
  obtain ⟨hs, hn⟩ := ofMillis_seconds low high
  have es : (ofMillis t.toMillis).seconds = t.seconds := by rw [hs]; unfold toMillis; omega
  have en : (ofMillis t.toMillis).nanos = t.nanos := by rw [hn]; unfold toMillis; omega
  generalize ofMillis t.toMillis = u at es en
  cases u
  cases t
  simp_all

/-- Milliseconds of an instant fit into 64 bits with much to spare. -/
theorem toMillis_bounds (t : Instant) :
    -8334601228800000 ≤ t.toMillis ∧ t.toMillis ≤ 8210266876800999 := by
  have h1 := t.first_le
  have h2 := t.le_last
  have h3 := t.nanos_lt
  unfold toMillis
  omega

/-! ## 2. Dates and times of day -/

/-- The civil date in universal time. -/
def date (t : Instant) : CivilDate := CivilDate.ofDays (t.seconds / 86400)

/-- Second of the day, from zero; a leap second shares that of second 59. -/
def secondOfDay (t : Instant) : Nat := (t.seconds % 86400).toNat

end Instant

end Dossier
