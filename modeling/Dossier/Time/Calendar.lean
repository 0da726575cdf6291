/-
# Civil dates

Days since 1970-01-01 against years, months and days of the Gregorian calendar, extended to all
years.  A year is counted from the first of March, so that the leap day comes last: four hundred
such years have 146097 days, and inside them the century, the four-year group and the year are
read off by division, the last century and the last year of a group being the long ones.

Main statements: `MarchDay.number_ofNumber` (splitting a day number and putting it together again
loses nothing) and `toDays_ofDays` (the same for whole dates).
-/
namespace Dossier

/-- A day of the calendar.  Months and days count from one. -/
structure CivilDate where
  year : Int
  month : Nat
  day : Nat
deriving DecidableEq, Inhabited

/-! ## 1. Years -/

def isLeapYear (year : Int) : Bool :=
  year % 4 == 0 && (year % 100 != 0 || year % 400 == 0)

/-- The days of a month; a number that is no month has none. -/
def daysInMonth (year : Int) (month : Nat) : Nat :=
  match month with
  | 1 | 3 | 5 | 7 | 8 | 10 | 12 => 31
  | 4 | 6 | 9 | 11 => 30
  | 2 => if isLeapYear year then 29 else 28
  | _ => 0

/-- A year that starts in March, and the day in it, both from zero, within four hundred years. -/
structure MarchDay where
  year : Nat
  day : Nat
deriving DecidableEq

/-- The number of days before a day, within four hundred years. -/
def MarchDay.number (m : MarchDay) : Nat := 365 * m.year + m.year / 4 - m.year / 100 + m.day

/-- The year and day of a day number below 146097. -/
def MarchDay.ofNumber (n : Nat) : MarchDay :=
  let century := min 3 (n / 36524)
  let inCentury := n - 36524 * century
  let group := inCentury / 1461
  let inGroup := inCentury - 1461 * group
  let year := min 3 (inGroup / 365)
  ⟨100 * century + 4 * group + year, inGroup - 365 * year⟩

/-- The year and day of a number, through its century, its four-year group and its year. -/
theorem MarchDay.exists_ofNumber {n : Nat} (h : n < 146097) :
    ∃ c q y d, c < 4 ∧ q < 25 ∧ y < 4 ∧ d < 366 ∧ ofNumber n = ⟨100 * c + 4 * q + y, d⟩ ∧
      n = 36524 * c + 1461 * q + 365 * y + d := by
  have hc : min 3 (n / 36524) < 4 ∧ 36524 * min 3 (n / 36524) ≤ n ∧
      n < 36524 * min 3 (n / 36524) + 36525 := by omega
  generalize hcc : min 3 (n / 36524) = c at hc
  generalize hr : n - 36524 * c = r
  have hq : r / 1461 < 25 ∧ 1461 * (r / 1461) ≤ r ∧ r < 1461 * (r / 1461) + 1461 := by omega
  generalize hqq : r / 1461 = q at hq
  generalize ht : r - 1461 * q = t
  have hy : min 3 (t / 365) < 4 ∧ 365 * min 3 (t / 365) ≤ t ∧
      t < 365 * min 3 (t / 365) + 366 := by omega
  generalize hyy : min 3 (t / 365) = y at hy
  refine ⟨c, q, y, t - 365 * y, hc.1, hq.1, hy.1, by omega, ?_, by omega⟩
  simp only [ofNumber, hcc, hr, hqq, ht, hyy]

theorem MarchDay.number_ofNumber {n : Nat} (h : n < 146097) : (ofNumber n).number = n := by
  obtain ⟨c, q, y, d, hc, hq, hy, hd, he, hn⟩ := exists_ofNumber h
  rw [he, number]
  have h4 : (100 * c + 4 * q + y) / 4 = 25 * c + q := by omega
  have h100 : (100 * c + 4 * q + y) / 100 = c := by omega
  simp only [h4, h100]
  omega

/-! ## 2. Months -/

/-- Days before a month, months counted from March as zero.  Five months have 153 days. -/
def daysBeforeMonth (month : Nat) : Nat := (153 * month + 2) / 5

/-- The month, counted from March as zero, that holds a day of the year. -/
def monthOfDay (day : Nat) : Nat := (5 * day + 2) / 153

theorem daysBeforeMonth_monthOfDay_le (day : Nat) : daysBeforeMonth (monthOfDay day) ≤ day := by
  unfold daysBeforeMonth monthOfDay
  omega

/-! ## 3. Dates and day numbers -/

namespace CivilDate

/-- Days from the first of March of the year zero to the first of January 1970. -/
def epochOffset : Int := 719468

def ofDays (days : Int) : CivilDate :=
  let shifted := days + epochOffset
  let cycle := shifted / 146097
  let m := MarchDay.ofNumber (shifted % 146097).toNat
  let month := monthOfDay m.day
  let day := m.day - daysBeforeMonth month + 1
  let year : Int := 400 * cycle + m.year
  if month < 10 then ⟨year, month + 3, day⟩ else ⟨year + 1, month - 9, day⟩

def toDays (d : CivilDate) : Int :=
  let year := if d.month ≤ 2 then d.year - 1 else d.year
  let month := if d.month ≤ 2 then d.month + 9 else d.month - 3
  let cycle := year / 400
  let m : MarchDay := ⟨(year % 400).toNat, daysBeforeMonth month + (d.day - 1)⟩
  146097 * cycle + m.number - epochOffset

/-- Whether the month has such a day. -/
def isReal (d : CivilDate) : Bool := 1 ≤ d.day && d.day ≤ daysInMonth d.year d.month

/-- Splitting a day number into a date and counting the date's days again gives the number. -/
theorem toDays_ofDays (days : Int) : (ofDays days).toDays = days := by
  generalize hn : ((days + epochOffset) % 146097).toNat = n
  have hlt : n < 146097 := by omega
  obtain ⟨c, q, y, d, hc, hq, hy, hd, he, -⟩ := MarchDay.exists_ofNumber hlt
  have hday := MarchDay.number_ofNumber hlt
  rw [he] at hday
  have hle := daysBeforeMonth_monthOfDay_le d
  have hlast : monthOfDay d < 12 := by unfold monthOfDay; omega
  simp only [ofDays, toDays, hn, he]
  generalize hm : monthOfDay d = month at *
  generalize hb : daysBeforeMonth month = before at *
  generalize hy' : 100 * c + 4 * q + y = year at *
  have hyear : year < 400 := by omega
  by_cases h : month < 10
  · have hf : (400 * ((days + epochOffset) / 146097) + (year : Int)) / 400 =
        (days + epochOffset) / 146097 := by omega
    have hr : ((400 * ((days + epochOffset) / 146097) + (year : Int)) % 400).toNat = year := by
      omega
    simp only [h, if_true, show ¬ (month + 3 ≤ 2) by omega, if_false, hf, hr,
      show month + 3 - 3 = month by omega, hb, show before + (d - before + 1 - 1) = d by omega,
      hday]
    omega
  · have hf : (400 * ((days + epochOffset) / 146097) + (year : Int) + 1 - 1) / 400 =
        (days + epochOffset) / 146097 := by omega
    have hr : ((400 * ((days + epochOffset) / 146097) + (year : Int) + 1 - 1) % 400).toNat =
        year := by omega
    simp only [h, if_false, show month - 9 ≤ 2 by omega, if_true, hf, hr,
      show month - 9 + 9 = month by omega, hb, show before + (d - before + 1 - 1) = d by omega,
      hday]
    omega

example : ofDays 0 = ⟨1970, 1, 1⟩ := by decide
example : ofDays (-1) = ⟨1969, 12, 31⟩ := by decide
example : ofDays 18321 = ⟨2020, 2, 29⟩ := by decide
example : toDays ⟨2020, 2, 29⟩ = 18321 := by decide
example : toDays ⟨1, 1, 1⟩ = -719162 := by decide

end CivilDate

end Dossier
