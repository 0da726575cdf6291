/-
# The years 1 to 9999

Timestamps keep to the years 1 to 9999, and say so by their first and last second.  The calendar
says so by dates.  The two agree: a day is of the year 1 or a later one exactly if its number is
that of the first of January of the year 1 or more (`CivilDate.one_le_year_ofDays_iff`), and
likewise at the other end.

Main statements: `Instant.inYears_iff` and `Timestamp.valid_ofInstant_iff` (the timestamp of an
instant is valid exactly in these years and outside leap seconds).
-/
import Dossier.Proofs.Time.Floor

namespace Dossier

namespace CivilDate

/-- The year of a day, and its day number, from the century, the four-year group, the year and the
day in it; from March on to the end of December it is the year that has begun in March. -/
theorem exists_ofDays (days : Int) :
    ∃ cycle : Int, ∃ c q y d : Nat, c < 4 ∧ q < 25 ∧ y < 4 ∧ d < 366 ∧
      days + epochOffset = 146097 * cycle + (36524 * c + 1461 * q + 365 * y + d : Nat) ∧
      36524 * c + 1461 * q + 365 * y + d < 146097 ∧
      (ofDays days).year =
        400 * cycle + (100 * c + 4 * q + y : Nat) + if d < 306 then 0 else 1 := by
  have hn : ((days + epochOffset) % 146097).toNat < 146097 := by omega
  obtain ⟨c, q, y, d, hc, hq, hy, hd, he, hsplit⟩ := MarchDay.exists_ofNumber hn
  refine ⟨(days + epochOffset) / 146097, c, q, y, d, hc, hq, hy, hd, by omega, by omega, ?_⟩
  have hmonth : monthOfDay d < 10 ↔ d < 306 := by
    unfold monthOfDay
    omega
  simp only [ofDays, he, hmonth]
  split
  · exact (Int.add_zero _).symm
  · rfl

/-- A day is of the year 1 or a later one if it is not before the first of January of the year 1. -/
theorem one_le_year_ofDays_iff {days : Int} :
    1 ≤ (ofDays days).year ↔ toDays ⟨1, 1, 1⟩ ≤ days := by
  have hfirst : toDays ⟨1, 1, 1⟩ = -719162 := by decide
  obtain ⟨cycle, c, q, y, d, hc, hq, hy, hd, hdays, hlt, hyear⟩ := exists_ofDays days
  rw [hyear, hfirst]
  unfold epochOffset at hdays
  split <;> omega

/-- A day is of the year 9999 or an earlier one if it is not after the last of December of the year
9999. -/
theorem year_ofDays_le_iff {days : Int} :
    (ofDays days).year ≤ 9999 ↔ days ≤ toDays ⟨9999, 12, 31⟩ := by
  have hlast : toDays ⟨9999, 12, 31⟩ = 2932896 := by decide
  obtain ⟨cycle, c, q, y, d, hc, hq, hy, hd, hdays, hlt, hyear⟩ := exists_ofDays days
  rw [hyear, hlast]
  unfold epochOffset at hdays
  -- The year 9999 is the last of the cycle with number 24, so the cycles before and after are
  -- settled at once; in it, what counts is whether a day is in the last group of the last century.
  have hcycle : cycle ≤ 23 ∨ cycle = 24 ∨ 25 ≤ cycle := by omega
  have hcentury : c ≤ 2 ∨ c = 3 := by omega
  have hgroup : q ≤ 23 ∨ q = 24 := by omega
  rcases hcycle with hcycle | rfl | hcycle
  · split <;> omega
  · rcases hcentury with hcentury | rfl
    · split <;> omega
    · rcases hgroup with hgroup | rfl <;> split <;> omega
  · split <;> omega

end CivilDate

/-! ## 1. Instants -/

/-- The instant is in one of the years 1 to 9999. -/
def Instant.InYears (t : Instant) : Prop := 1 ≤ t.date.year ∧ t.date.year ≤ 9999

instance (t : Instant) : Decidable t.InYears := inferInstanceAs (Decidable (_ ∧ _))

theorem Instant.inYears_iff {t : Instant} :
    t.InYears ↔ Timestamp.firstSecond ≤ t.seconds ∧ t.seconds ≤ Timestamp.lastSecond := by
  have hfirst : CivilDate.toDays ⟨1, 1, 1⟩ = -719162 := by decide
  have hlast : CivilDate.toDays ⟨9999, 12, 31⟩ = 2932896 := by decide
  unfold InYears date Timestamp.firstSecond Timestamp.lastSecond
  rw [CivilDate.one_le_year_ofDays_iff, CivilDate.year_ofDays_le_iff, hfirst, hlast]
  omega

/-! ## 2. Timestamps of instants -/

namespace Timestamp

theorem toInt_seconds_ofInstant (t : Instant) : (ofInstant t).seconds.toInt = t.seconds := by
  have h1 := t.first_le
  have h2 := t.le_last
  exact Int64.toInt_ofInt_of_le (by omega) (by omega)

theorem toInt_nanos_ofInstant (t : Instant) : (ofInstant t).nanos.toInt = t.nanos := by
  have h := t.nanos_lt
  exact Int32.toInt_ofNat_of_lt (by omega)

/-- A valid timestamp has the milliseconds of its instant. -/
theorem toMillis_ofInstant {t : Instant} (h : (ofInstant t).Valid) :
    (ofInstant t).toMillis = .ok (Int64.ofInt t.toMillis) := by
  rw [toMillis_eq_ok_iff, t.toInt_ofInt_toMillis, toInt_seconds_ofInstant, toInt_nanos_ofInstant]
  exact ⟨h, rfl⟩

/-- **The timestamp of an instant is valid in the years 1 to 9999, and outside leap seconds.** -/
theorem valid_ofInstant_iff {t : Instant} :
    (ofInstant t).Valid ↔ t.InYears ∧ t.isLeapSecond = false := by
  have hleap : t.isLeapSecond = false ↔ t.nanos < 1000000000 := by
    unfold Instant.isLeapSecond
    rw [decide_eq_false_iff_not, Nat.not_le]
  rw [Instant.inYears_iff, hleap]
  constructor
  · rintro ⟨h1, h2, h3, h4⟩
    rw [toInt_seconds_ofInstant] at h1 h2
    rw [toInt_nanos_ofInstant] at h4
    exact ⟨⟨h1, h2⟩, by omega⟩
  · rintro ⟨⟨h1, h2⟩, h3⟩
    refine ⟨?_, ?_, ?_, ?_⟩
    · rwa [toInt_seconds_ofInstant]
    · rwa [toInt_seconds_ofInstant]
    · rw [toInt_nanos_ofInstant]
      omega
    · rw [toInt_nanos_ofInstant]
      omega

end Timestamp

end Dossier
