/-
# Instants that are written and read

A text of an instant has its date, its time of day and as many digits of its fraction as are needed.
The loose reader takes apart what was put together: each number ends where something else than a
digit stands, and no part begins with a blank.

What it reads must be a date of the calendar.  The day of a date that comes from a day number is in
its month (`CivilDate.isReal_ofDays`), the 29th of February too: a year that starts in March is long
only if the next January begins a leap year.

Main statement: `Instant.parseLoosely?_toText`, for years that are written without a sign.
-/
import Dossier.Proofs.Filter.Tokens
import Dossier.Time.Rfc3339
import Mathlib.Tactic.IntervalCases

namespace Dossier

/-! ## 1. Dates of the calendar -/

/-- A year of 366 days from March on ends in a leap year. -/
theorem MarchDay.isLeapYear_of_day {n : Nat} (h : n < 146097) (hday : (ofNumber n).day = 365)
    (cycle : Int) : isLeapYear (400 * cycle + ((ofNumber n).year : Nat) + 1) = true := by
  unfold ofNumber at hday ⊢
  dsimp only at hday ⊢
  have hc : min 3 (n / 36524) ≤ 3 ∧
      (min 3 (n / 36524) < 3 → n - 36524 * min 3 (n / 36524) < 36524) ∧
      n - 36524 * min 3 (n / 36524) < 36525 := by omega
  generalize min 3 (n / 36524) = c at *
  generalize n - 36524 * c = r at *
  have hq : 1461 * (r / 1461) ≤ r ∧ r < 1461 * (r / 1461) + 1461 := by omega
  generalize r / 1461 = q at *
  generalize ht : r - 1461 * q = t at *
  have hy : min 3 (t / 365) = 3 ∧ t = 1460 := by omega
  rw [hy.1]
  simp only [isLeapYear, Bool.and_eq_true, Bool.or_eq_true, bne_iff_ne, beq_iff_eq]
  omega

/-- A month, counted from March as zero, has the days up to the next one.  February comes last, and
its days are up to the end of the year. -/
theorem daysInMonth_eq {month : Nat} (h : month < 11) (year : Int) :
    daysInMonth year (if month < 10 then month + 3 else month - 9) =
      daysBeforeMonth (month + 1) - daysBeforeMonth month := by
  interval_cases month <;> rfl

theorem daysInMonth_february (year : Int) :
    daysInMonth year 2 = if isLeapYear year then 29 else 28 := rfl

/-- A day of a year that starts in March is in its month, and the 366th is so in a long year. -/
theorem day_le_daysInMonth {d : Nat} (hd : d < 366) {year : Int}
    (hleap : d = 365 → isLeapYear (year + 1) = true) :
    d - daysBeforeMonth (monthOfDay d) + 1 ≤
      if monthOfDay d < 10 then daysInMonth year (monthOfDay d + 3)
      else daysInMonth (year + 1) (monthOfDay d - 9) := by
  have hle := daysBeforeMonth_monthOfDay_le d
  have hlt : d < daysBeforeMonth (monthOfDay d + 1) := by
    unfold daysBeforeMonth monthOfDay
    omega
  by_cases hmonth : monthOfDay d < 11
  · have hdays := daysInMonth_eq hmonth
    split
    · next h =>
      have := hdays year
      rw [if_pos h] at this
      omega
    · next h =>
      have := hdays (year + 1)
      rw [if_neg h] at this
      omega
  · have hlast : monthOfDay d = 11 := by
      unfold monthOfDay at *
      omega
    have hbefore : daysBeforeMonth 11 = 337 := rfl
    rw [hlast, if_neg (by decide), hbefore, daysInMonth_february]
    by_cases hlong : d = 365
    · rw [if_pos (hleap hlong), hlong]
    · split <;> omega

namespace CivilDate

/-- **The date of a day number is a date of the calendar.** -/
theorem isReal_ofDays (days : Int) : (ofDays days).isReal = true := by
  have hn : ((days + epochOffset) % 146097).toNat < 146097 := by omega
  obtain ⟨c, q, y, d, -, -, -, hd, he, -⟩ := MarchDay.exists_ofNumber hn
  have hleap (hday : d = 365) := MarchDay.isLeapYear_of_day hn (by rw [he]; exact hday)
    ((days + epochOffset) / 146097)
  rw [he] at hleap
  have hmonth := day_le_daysInMonth hd hleap
  unfold isReal
  simp only [ofDays, he]
  split
  · next h =>
    rw [if_pos h] at hmonth
    exact Bool.and_eq_true_iff.mpr ⟨decide_eq_true (Nat.le_add_left 1 _), decide_eq_true hmonth⟩
  · next h =>
    rw [if_neg h] at hmonth
    exact Bool.and_eq_true_iff.mpr ⟨decide_eq_true (Nat.le_add_left 1 _), decide_eq_true hmonth⟩

theorem bounds_of_isReal {date : CivilDate} (h : date.isReal = true) :
    1 ≤ date.month ∧ date.month ≤ 12 ∧ date.day ≤ 31 := by
  unfold isReal daysInMonth at h
  rw [Bool.and_eq_true, decide_eq_true_eq, decide_eq_true_eq] at h
  obtain ⟨hlow, hhigh⟩ := h
  split at hhigh
  all_goals (try split at hhigh) <;> omega

end CivilDate

/-! ## 2. Numbers -/

theorem isDigit_of_mem_paddedDigits (width n : Nat) :
    ∀ c ∈ paddedDigits width n, c.isDigit = true := by
  intro c hc
  rcases List.mem_append.mp hc with hc | hc
  · obtain ⟨-, rfl⟩ := List.mem_replicate.mp hc
    rfl
  · exact Nat.isDigit_of_mem_toDigits (by decide) (by decide) hc

theorem length_paddedDigits {width n : Nat} (hwidth : 0 < width) (h : n < 10 ^ width) :
    (paddedDigits width n).length = width := by
  have hle := (Nat.length_toDigits_le_iff (b := 10) (by decide) hwidth).mpr h
  rw [paddedDigits, List.length_append, List.length_replicate]
  omega

/-- Zeros in front do not count. -/
theorem digitsValue_paddedDigits (width n : Nat) : digitsValue (paddedDigits width n) = n := by
  have hzeros (k : Nat) (digits : List Char) :
      digitsValue (List.replicate k '0' ++ digits) = digitsValue digits := by
    induction k with
    | zero => rfl
    | succ k ih => exact ih
  rw [paddedDigits, hzeros]
  exact Nat.ofDigitChars_toDigits (by decide) (by decide)

theorem exists_paddedDigits_eq (width n : Nat) :
    ∃ c digits, paddedDigits width n = c :: digits ∧ c.isDigit = true := by
  have hne : paddedDigits width n ≠ [] := by
    simp [paddedDigits, Nat.toDigits_ne_nil]
  obtain ⟨c, digits, heq⟩ := List.exists_cons_of_ne_nil hne
  exact ⟨c, digits, heq, isDigit_of_mem_paddedDigits _ _ c (heq ▸ List.mem_cons_self)⟩

/-- Digits are read up to where they stop. -/
theorem readDigits_append (least most : Nat) {digits rest : List Char}
    (hdigits : ∀ c ∈ digits, c.isDigit = true) (hleast : least ≤ digits.length)
    (hmost : digits.length ≤ most) (hrest : Filter.Stops Char.isDigit rest) :
    readDigits least (some most) (digits ++ rest) = some (digits, rest) := by
  have hstops : Filter.Stops Char.isDigit (rest.take (most - digits.length)) := by
    intro c hc
    cases rest with
    | nil => simp at hc
    | cons d after =>
      cases hroom : most - digits.length with
      | zero => simp [hroom] at hc
      | succ k =>
        rw [hroom, List.take_succ_cons] at hc
        exact hrest c hc
  have htake : ((digits ++ rest).take most).takeWhile Char.isDigit = digits := by
    rw [List.take_append, List.take_of_length_le hmost]
    exact hstops.takeWhile_append hdigits
  simp only [readDigits, htake]
  rw [if_pos hleast, List.drop_left]

namespace Instant

theorem skipBlanks_cons {c : Char} (h : isBlank c = false) (s : List Char) :
    skipBlanks (c :: s) = c :: s := List.dropWhile_cons_of_neg (by rw [h]; exact Bool.false_ne_true)

theorem isBlank_of_isDigit {c : Char} (h : c.isDigit = true) : isBlank c = false :=
  isBlank_of_isAlphanum (Bool.or_eq_true_iff.mpr (.inr h))

theorem skipBlanks_paddedDigits (width n : Nat) (rest : List Char) :
    skipBlanks (paddedDigits width n ++ rest) = paddedDigits width n ++ rest := by
  obtain ⟨c, digits, heq, hc⟩ := exists_paddedDigits_eq width n
  rw [heq, List.cons_append, skipBlanks_cons (isBlank_of_isDigit hc)]

theorem readChar_skipBlanks {c : Char} (h : isBlank c = false) (rest : List Char) :
    readChar c (skipBlanks (c :: rest)) = some rest := by
  rw [skipBlanks_cons h, readChar, if_pos rfl]

theorem readLoose_append {n : Nat} (h : n < 100) {rest : List Char}
    (hrest : Filter.Stops Char.isDigit rest) :
    readLoose (paddedDigits 2 n ++ rest) = some (n, rest) := by
  have hlength := length_paddedDigits (by decide : 0 < 2) h
  rw [readLoose, skipBlanks_paddedDigits, readDigits_append _ _ (isDigit_of_mem_paddedDigits _ _)
    (by omega) (by omega) hrest, Option.map_some]
  dsimp only
  rw [digitsValue_paddedDigits]

theorem readLooseYear_append {n : Nat} (h : n < 10000) {rest : List Char}
    (hrest : Filter.Stops Char.isDigit rest) :
    readLooseYear (paddedDigits 4 n ++ rest) = some ((n : Int), rest) := by
  have hlength := length_paddedDigits (by decide : 0 < 4) h
  have hread := readDigits_append 1 4 (isDigit_of_mem_paddedDigits 4 n) (by omega) (by omega) hrest
  obtain ⟨c, digits, heq, hc⟩ := exists_paddedDigits_eq 4 n
  unfold readLooseYear
  rw [skipBlanks_paddedDigits]
  split
  · next heq' =>
    rw [heq, List.cons_append] at heq'
    cases heq'
    cases hc
  · next heq' =>
    rw [heq, List.cons_append] at heq'
    cases heq'
    cases hc
  · rw [hread, Option.map_some]
    dsimp only
    rw [digitsValue_paddedDigits]

/-! ## 3. Parts of the text -/

theorem readFraction_point {width n : Nat} (hwidth : 0 < width) (hmost : width ≤ 9)
    (h : n < 10 ^ width) :
    readFraction ('.' :: (paddedDigits width n ++ ['Z'])) = some (n * 10 ^ (9 - width), ['Z']) := by
  have hlength := length_paddedDigits hwidth h
  have hstops : Filter.Stops Char.isDigit ['Z'] := Filter.stops_cons.mpr rfl
  have hread := readDigits_append 1 9 (isDigit_of_mem_paddedDigits width n) (by omega) (by omega)
    hstops
  rw [readFraction, hread]
  simp only [Option.bind_eq_bind, Option.bind_some, digitsValue_paddedDigits, hlength]
  rfl

/-- However many digits a fraction has, none is lost. -/
theorem readFraction_fractionText {nanos : Nat} (h : nanos < 1000000000) :
    readFraction (fractionText .fewest nanos ++ ['Z']) = some (nanos, ['Z']) := by
  unfold fractionText
  dsimp only
  split
  · next hzero =>
    subst hzero
    rfl
  · split
    · next hmillis =>
      rw [List.cons_append, readFraction_point (by decide) (by decide) (by omega)]
      congr 2
      omega
    · split
      · next hmicros =>
        rw [List.cons_append, readFraction_point (by decide) (by decide) (by omega)]
        congr 2
        omega
      · rw [List.cons_append, readFraction_point (by decide) (by decide) (by omega)]
        congr 2
        omega

/-! ## 4. Whole texts -/

/-- The year is written as four digits, without a sign. -/
def HasPlainYear (t : Instant) : Prop := 0 ≤ t.date.year ∧ t.date.year ≤ 9999

instance (t : Instant) : Decidable t.HasPlainYear := inferInstanceAs (Decidable (_ ∧ _))

/-- A reading whose parts are in their ranges is an instant, if its seconds and nanoseconds are.
Second 60 is second 59, a whole second later. -/
theorem toInstant?_mk {date : CivilDate} {hour minute second nanos : Nat} {offset : Int}
    (hdate : date.isReal = true) (hfirst : -262143 ≤ date.year) (hlast : date.year ≤ 262142)
    (hhour : hour < 24) (hminute : minute < 60) (hsecond : second ≤ 60)
    (hoffset : offset.natAbs < 86400) :
    Reading.toInstant? ⟨date, hour, minute, second, nanos, offset⟩ =
      ofSeconds? (date.toDays * 86400 + (hour * 3600 + minute * 60 + min second 59 : Nat) - offset)
        (nanos + if second = 60 then 1000000000 else 0) := by
  unfold Reading.toInstant?
  rw [if_pos (by simp [hdate, hfirst, hlast, hhour, hminute, hsecond, hoffset])]
  dsimp only
  by_cases hleap : second = 60
  · rw [if_pos hleap, if_pos hleap, if_pos hleap, hleap]
    rfl
  · rw [if_neg hleap, if_neg hleap, if_neg hleap, Nat.min_eq_left (by omega), Nat.add_zero]

/-- The second of the minute, from zero; a leap second is second 60. -/
def secondOfMinute (t : Instant) : Nat := t.secondOfDay % 60 + if t.isLeapSecond then 1 else 0

theorem secondOfDay_lt (t : Instant) : t.secondOfDay < 86400 := by
  unfold secondOfDay
  omega

theorem secondOfMinute_eq_sixty_iff (t : Instant) :
    t.secondOfMinute = 60 ↔ 1000000000 ≤ t.nanos := by
  have hleap := t.leap
  have hsixty : t.isLeapSecond = true ↔ 1000000000 ≤ t.nanos := decide_eq_true_iff
  unfold secondOfMinute secondOfDay
  rw [← hsixty] at hleap ⊢
  split
  · next h =>
    have := hleap h
    exact iff_of_true (by omega) h
  · next h => exact iff_of_false (by omega) h

/-- The second of the minute is that of the day, but for a leap second. -/
theorem min_secondOfMinute (t : Instant) : min t.secondOfMinute 59 = t.secondOfDay % 60 := by
  have hsixty := t.secondOfMinute_eq_sixty_iff
  have hleap := t.leap
  by_cases h : 1000000000 ≤ t.nanos
  · have := hleap h
    rw [hsixty.mpr h]
    unfold secondOfDay
    omega
  · have hl : ¬ t.isLeapSecond = true := fun hl => h (of_decide_eq_true hl)
    unfold secondOfMinute
    rw [if_neg hl]
    omega

theorem secondOfMinute_le (t : Instant) : t.secondOfMinute ≤ 60 := by
  unfold secondOfMinute
  split <;> omega

theorem isReal_date (t : Instant) : t.date.isReal = true := CivilDate.isReal_ofDays _

/-- The parts of an instant are a reading of it. -/
theorem toInstant?_parts {t : Instant} (h : t.HasPlainYear) :
    Reading.toInstant? ⟨t.date, t.secondOfDay / 3600, t.secondOfDay / 60 % 60, t.secondOfMinute,
      t.nanos % 1000000000, 0⟩ = some t := by
  obtain ⟨hlow, hhigh⟩ := h
  have hmin := t.min_secondOfMinute
  have hle := t.secondOfMinute_le
  have hlt := t.secondOfDay_lt
  have hdays : t.date.toDays = t.seconds / 86400 := CivilDate.toDays_ofDays _
  have hseconds : t.date.toDays * 86400 + (t.secondOfDay / 3600 * 3600 +
      t.secondOfDay / 60 % 60 * 60 + min t.secondOfMinute 59 : Nat) - 0 = t.seconds := by
    rw [hdays, hmin]
    unfold secondOfDay
    omega
  have hnanos : t.nanos % 1000000000 + (if t.secondOfMinute = 60 then 1000000000 else 0) =
      t.nanos := by
    have := t.nanos_lt
    simp only [secondOfMinute_eq_sixty_iff]
    split <;> omega
  rw [toInstant?_mk t.isReal_date (by omega) (by omega) (by omega) (by omega)
    (by omega) (by decide), hseconds, hnanos, ofSeconds?_self]

theorem stops_fractionText (nanos : Nat) :
    Filter.Stops Char.isDigit (fractionText .fewest nanos ++ ['Z']) := by
  unfold fractionText
  dsimp only
  split_ifs <;> exact Filter.stops_cons.mpr rfl

/-- The reader takes apart what is put together in the order of the form. -/
theorem parseLoosely?_parts {year month day hour minute second nanos : Nat} (hyear : year < 10000)
    (hmonth : month < 100) (hday : day < 100) (hhour : hour < 100) (hminute : minute < 100)
    (hsecond : second < 100) (hnanos : nanos < 1000000000) :
    parseLoosely? (String.ofList (paddedDigits 4 year ++ '-' :: (paddedDigits 2 month ++ '-' ::
      (paddedDigits 2 day ++ 'T' :: (paddedDigits 2 hour ++ ':' :: (paddedDigits 2 minute ++ ':' ::
        (paddedDigits 2 second ++ (fractionText .fewest nanos ++ ['Z'])))))))) =
      Reading.toInstant? ⟨⟨year, month, day⟩, hour, minute, second, nanos, 0⟩ := by
  have hmark {c : Char} (hc : c.isDigit = false) (rest : List Char) :
      Filter.Stops Char.isDigit (c :: rest) := Filter.stops_cons.mpr hc
  have hzone : readLooseZone (skipBlanks ['Z']) = some (0, []) := rfl
  have hbind {α β : Type} (a : α) (next : α → Option β) : (some a >>= next) = next a := rfl
  unfold parseLoosely?
  rw [String.toList_ofList, readLooseYear_append hyear (hmark rfl _), hbind]
  dsimp only
  rw [readChar_skipBlanks rfl, hbind, readLoose_append hmonth (hmark rfl _), hbind]
  dsimp only
  rw [readChar_skipBlanks rfl, hbind, readLoose_append hday (hmark rfl _), hbind]
  dsimp only
  rw [readMiddle, hbind, readLoose_append hhour (hmark rfl _), hbind]
  dsimp only
  rw [readChar_skipBlanks rfl, hbind, readLoose_append hminute (hmark rfl _), hbind]
  dsimp only
  rw [readChar_skipBlanks rfl, hbind, readLoose_append hsecond (stops_fractionText nanos), hbind]
  dsimp only
  rw [readFraction_fractionText hnanos, hbind]
  dsimp only
  rw [hzone, hbind]
  rfl

/-- **An instant that is written is read again**, to the nanosecond, and a leap second as one. -/
theorem parseLoosely?_toText {t : Instant} (h : t.HasPlainYear) :
    parseLoosely? (t.toText .fewest) = some t := by
  have hparts := toInstant?_parts h
  obtain ⟨hlow, hhigh⟩ := h
  obtain ⟨hmonth, hmonths, hday⟩ := CivilDate.bounds_of_isReal t.isReal_date
  have hsecond := t.secondOfMinute_le
  have hlt := t.secondOfDay_lt
  have hyear : ((t.date.year.toNat : Nat) : Int) = t.date.year := Int.toNat_of_nonneg hlow
  have htext : t.toText .fewest = String.ofList (paddedDigits 4 t.date.year.toNat ++ '-' ::
      (paddedDigits 2 t.date.month ++ '-' :: (paddedDigits 2 t.date.day ++ 'T' ::
        (paddedDigits 2 (t.secondOfDay / 3600) ++ ':' ::
          (paddedDigits 2 (t.secondOfDay / 60 % 60) ++ ':' :: (paddedDigits 2 t.secondOfMinute ++
            (fractionText .fewest (t.nanos % 1000000000) ++ ['Z']))))))) := by
    simp only [toText, dateText, clockText, yearText, secondOfMinute, if_pos (And.intro hlow hhigh),
      List.append_assoc, List.cons_append]
  rw [htext, parseLoosely?_parts (by omega) (by omega) (by omega) (by omega) (by omega) (by omega)
    (by omega), hyear]
  exact hparts

end Instant

end Dossier
