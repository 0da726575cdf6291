/-
# Instants as RFC 3339 text

Writing is in universal time with `Z`.  A year outside 0 to 9999 carries its sign, a leap second
is second 60, and the fraction has either three digits or the fewest of 0, 3, 6 and 9 that lose
nothing.

There are two readers.  `Instant.parse?` takes the form of the standard: four digits of year, two
of everything else, `T`, `t` or a space in the middle, any number of digits of fraction of which
nine count, and `Z`, `z` or a signed offset of hours and minutes.  `Instant.parseLoosely?` also
takes blanks between the parts, numbers without leading zeros, signed years of any length, `UTC`,
and offsets without a colon.  Second 60 is read in any minute, as a leap second.
-/
import Dossier.Time.Instant
import Dossier.Unicode.Blank

namespace Dossier

/-! ## 1. Digits -/

/-- The decimal digits of a number, with zeros in front up to a width. -/
def paddedDigits (width n : Nat) : List Char :=
  let digits := Nat.toDigits 10 n
  List.replicate (width - digits.length) '0' ++ digits

/-- The number that a list of digits writes. -/
def digitsValue (digits : List Char) : Nat :=
  digits.foldl (fun n c => 10 * n + (c.toNat - 48)) 0

/-- Reads at least `least` and at most `most` digits; `none` for `most` is no limit. -/
def readDigits (least : Nat) (most : Option Nat) (s : List Char) :
    Option (List Char × List Char) :=
  let digits := (match most with
    | some m => s.take m
    | none => s).takeWhile Char.isDigit
  if least ≤ digits.length then some (digits, s.drop digits.length) else none

/-- Reads a number of exactly `width` digits. -/
def readFixed (width : Nat) (s : List Char) : Option (Nat × List Char) :=
  (readDigits width (some width) s).map fun (digits, rest) => (digitsValue digits, rest)

def readChar (c : Char) : List Char → Option (List Char)
  | d :: rest => if d = c then some rest else none
  | [] => none

namespace Instant

/-! ## 2. Writing -/

/-- How many digits a fraction of a second has. -/
inductive FractionStyle where
  /-- Three digits, the rest cut off. -/
  | millis
  /-- None, three, six or nine digits: the fewest that lose nothing. -/
  | fewest
deriving DecidableEq

def fractionText (style : FractionStyle) (nanos : Nat) : List Char :=
  match style with
  | .millis => '.' :: paddedDigits 3 (nanos / 1000000)
  | .fewest =>
    if nanos = 0 then []
    else if nanos % 1000000 = 0 then '.' :: paddedDigits 3 (nanos / 1000000)
    else if nanos % 1000 = 0 then '.' :: paddedDigits 6 (nanos / 1000)
    else '.' :: paddedDigits 9 nanos

/-- Four digits of year; a year outside 0 to 9999 carries its sign. -/
def yearText (year : Int) : List Char :=
  if 0 ≤ year ∧ year ≤ 9999 then paddedDigits 4 year.toNat
  else (if year < 0 then '-' else '+') :: paddedDigits 4 year.natAbs

def dateText (d : CivilDate) : List Char :=
  yearText d.year ++ '-' :: paddedDigits 2 d.month ++ '-' :: paddedDigits 2 d.day

/-- The time of day; second 60 is a leap second's. -/
def clockText (t : Instant) : List Char :=
  let s := t.secondOfDay
  let second := s % 60 + if t.isLeapSecond then 1 else 0
  paddedDigits 2 (s / 3600) ++ ':' :: paddedDigits 2 (s / 60 % 60) ++ ':' :: paddedDigits 2 second

/-- The instant in universal time. -/
def toText (style : FractionStyle) (t : Instant) : String :=
  String.ofList (dateText t.date ++ 'T' :: t.clockText ++
    fractionText style (t.nanos % 1000000000) ++ ['Z'])

/-! ## 3. Parts common to both readers -/

/-- A date and a time of day that have been read, and the offset of the place they hold at. -/
structure Reading where
  date : CivilDate
  hour : Nat
  minute : Nat
  second : Nat
  nanos : Nat
  /-- Seconds ahead of universal time. -/
  offset : Int

/-- The instant of a reading whose parts are all in their ranges. -/
def Reading.toInstant? (r : Reading) : Option Instant :=
  if r.date.isReal && decide (-262143 ≤ r.date.year) && decide (r.date.year ≤ 262142) &&
      decide (r.hour < 24) && decide (r.minute < 60) && decide (r.second ≤ 60) &&
      decide (r.offset.natAbs < 86400) then
    let leap := r.second = 60
    let second := if leap then 59 else r.second
    let nanos := if leap then r.nanos + 1000000000 else r.nanos
    let atPlace := r.date.toDays * 86400 + (r.hour * 3600 + r.minute * 60 + second : Nat)
    ofSeconds? (atPlace - r.offset) nanos
  else none

/-- The fraction after a second, in nanoseconds; digits after the ninth do not count. -/
def readFraction : List Char → Option (Nat × List Char)
  | '.' :: s => do
    let (digits, rest) ← readDigits 1 (some 9) s
    some (digitsValue digits * Nat.pow 10 (9 - digits.length), rest.dropWhile Char.isDigit)
  | s => some (0, s)

/-- A sign of an offset: whether it is negative.  The typographic minus counts as one. -/
def readSign : List Char → Option (Bool × List Char)
  | '+' :: s => some (false, s)
  | '-' :: s => some (true, s)
  | '\u2212' :: s => some (true, s)
  | _ => none

/-- A signed offset of hours and minutes, with `between` passing what stands between them. -/
def readOffset (between : List Char → Option (List Char)) (s : List Char) :
    Option (Int × List Char) := do
  let (negative, s) ← readSign s
  let (hours, s) ← readFixed 2 s
  let s ← between s
  let (minutes, s) ← readFixed 2 s
  if minutes < 60 then
    let seconds : Int := (hours * 3600 + minutes * 60 : Nat)
    some (if negative then -seconds else seconds, s)
  else none

/-! ## 4. The standard form -/

def readZone : List Char → Option (Int × List Char)
  | 'Z' :: s | 'z' :: s => some (0, s)
  | s => readOffset (readChar ':') s

def readMiddle : List Char → Option (List Char)
  | 'T' :: s | 't' :: s | ' ' :: s => some s
  | _ => none

/-- The instant that a text of the standard form names. -/
def parse? (text : String) : Option Instant := do
  let (year, s) ← readFixed 4 text.toList
  let s ← readChar '-' s
  let (month, s) ← readFixed 2 s
  let s ← readChar '-' s
  let (day, s) ← readFixed 2 s
  let s ← readMiddle s
  let (hour, s) ← readFixed 2 s
  let s ← readChar ':' s
  let (minute, s) ← readFixed 2 s
  let s ← readChar ':' s
  let (second, s) ← readFixed 2 s
  let (nanos, s) ← readFraction s
  let (offset, s) ← readZone s
  if s.isEmpty then Reading.toInstant? ⟨⟨year, month, day⟩, hour, minute, second, nanos, offset⟩
  else none

/-! ## 5. The loose form -/

def skipBlanks (s : List Char) : List Char := s.dropWhile isBlank

/-- One or two digits after blanks. -/
def readLoose (s : List Char) : Option (Nat × List Char) :=
  (readDigits 1 (some 2) (skipBlanks s)).map fun (digits, rest) => (digitsValue digits, rest)

/-- A year after blanks: up to four digits, or a sign and any number of digits. -/
def readLooseYear (s : List Char) : Option (Int × List Char) :=
  match skipBlanks s with
  | '-' :: s => (readDigits 1 none s).map fun (digits, rest) => (-(digitsValue digits : Int), rest)
  | '+' :: s => (readDigits 1 none s).map fun (digits, rest) => ((digitsValue digits : Int), rest)
  | s => (readDigits 1 (some 4) s).map fun (digits, rest) => ((digitsValue digits : Int), rest)

def readLooseZone : List Char → Option (Int × List Char)
  | 'Z' :: s | 'z' :: s => some (0, s)
  | u :: t :: c :: s =>
    if [u, t, c].map Char.toUpper = ['U', 'T', 'C'] then some (0, s)
    else readOffset (fun r => some (r.dropWhile fun c => c == ':' || isBlank c)) (u :: t :: c :: s)
  | _ => none

/-- The instant that a text of the loose form names. -/
def parseLoosely? (text : String) : Option Instant := do
  let (year, s) ← readLooseYear text.toList
  let s ← readChar '-' (skipBlanks s)
  let (month, s) ← readLoose s
  let s ← readChar '-' (skipBlanks s)
  let (day, s) ← readLoose s
  let s ← readMiddle s
  let (hour, s) ← readLoose s
  let s ← readChar ':' (skipBlanks s)
  let (minute, s) ← readLoose s
  let s ← readChar ':' (skipBlanks s)
  let (second, s) ← readLoose s
  let (nanos, s) ← readFraction s
  let (offset, s) ← readLooseZone (skipBlanks s)
  if (skipBlanks s).isEmpty then
    Reading.toInstant? ⟨⟨year, month, day⟩, hour, minute, second, nanos, offset⟩
  else none

end Instant

end Dossier
