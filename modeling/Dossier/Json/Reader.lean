/-
# Reading JSON

`Json.parse?` reads a text that is one JSON value, with blanks around it.  Of two members with one
key the later counts.  Values nest, and each level and each element takes a character at least, so
twice the length of the text bounds the steps of the readers.
-/
import Dossier.Double.Rounding
import Dossier.Json.Basic
import Dossier.Text.Hex
import Dossier.Time.Rfc3339

namespace Dossier

namespace Json

/-! ## 1. Strings -/

/-- The number of four hexadecimal digits. -/
def readUnit : List Char → Option (Nat × List Char)
  | a :: b :: c :: d :: rest => do
    let a ← hexValue? a
    let b ← hexValue? b
    let c ← hexValue? c
    let d ← hexValue? d
    some (((a * 16 + b) * 16 + c) * 16 + d, rest)
  | _ => none

/-- The character after `\u`; a character beyond 16 bits is a pair of surrogates. -/
def readUnicodeEscape (s : List Char) : Option (Char × List Char) := do
  let (unit, rest) ← readUnit s
  if 0xD800 ≤ unit ∧ unit < 0xDC00 then
    match rest with
    | '\\' :: 'u' :: rest =>
      let (low, rest) ← readUnit rest
      if 0xDC00 ≤ low ∧ low < 0xE000 then
        some (Char.ofNat (0x10000 + (unit - 0xD800) * 0x400 + (low - 0xDC00)), rest)
      else none
    | _ => none
  else if 0xDC00 ≤ unit ∧ unit < 0xE000 then none
  else some (Char.ofNat unit, rest)

/-- The character after a backslash. -/
def readEscape : List Char → Option (Char × List Char)
  | '"' :: s => some ('"', s)
  | '\\' :: s => some ('\\', s)
  | '/' :: s => some ('/', s)
  | 'b' :: s => some ('\x08', s)
  | 'f' :: s => some ('\x0c', s)
  | 'n' :: s => some ('\n', s)
  | 'r' :: s => some ('\r', s)
  | 't' :: s => some ('\t', s)
  | 'u' :: s => readUnicodeEscape s
  | _ => none

/-- The content of a string, newest character first, up to its closing quote. -/
def readContent : Nat → List Char → List Char → Option (List Char × List Char)
  | 0, _, _ => none
  | _, _, [] => none
  | _, content, '"' :: s => some (content, s)
  | fuel + 1, content, '\\' :: s => do
    let (c, rest) ← readEscape s
    readContent fuel (c :: content) rest
  | fuel + 1, content, c :: s => if c.toNat < 32 then none else readContent fuel (c :: content) s

/-- A string after its opening quote, of fewer characters than the bound. -/
def readString (bound : Nat) (s : List Char) : Option (String × List Char) :=
  (readContent bound [] s).map fun (content, rest) =>
    (String.ofList content.reverse, rest)

/-! ## 2. Numbers -/

/-- The whole part of a number: a zero alone, or digits that begin with another. -/
def readWholePart (s : List Char) : Option (List Char × List Char) :=
  match s with
  | '0' :: c :: rest => if c.isDigit then none else some (['0'], c :: rest)
  | _ =>
    match s.takeWhile Char.isDigit with
    | [] => none
    | digits => some (digits, s.dropWhile Char.isDigit)

/-- Digits after a point, if there is one. -/
def readFractionPart : List Char → Option (List Char × List Char)
  | '.' :: s =>
    match s.takeWhile Char.isDigit with
    | [] => none
    | digits => some (digits, s.dropWhile Char.isDigit)
  | s => some ([], s)

/-- An exponent, if there is one. -/
def readExponent : List Char → Option (Option Int × List Char)
  | e :: s =>
    if e = 'e' ∨ e = 'E' then
      let (negative, s) := match s with
        | '-' :: s => (true, s)
        | '+' :: s => (false, s)
        | s => (false, s)
      match s.takeWhile Char.isDigit with
      | [] => none
      | digits =>
        let n : Int := digitsValue digits
        some (some (if negative then -n else n), s.dropWhile Char.isDigit)
    else some (none, e :: s)
  | [] => some (none, [])

/-- Takes digits after a number for as long as it stays below 64 bits, with the digits that are
left. -/
def takeDigits (n : Nat) : List Char → Nat × List Char
  | [] => (n, [])
  | c :: s =>
    let next := 10 * n + (c.toNat - '0'.toNat)
    if next < UInt64.size then takeDigits next s else (n, c :: s)

/-- A double times a power of ten, by one product or one quotient with the double nearest to the
power.  A power below the range of doubles is taken in steps; what is beyond the range is no
number. -/
def timesPower : Nat → Double → Int → Option Double
  | 0, x, _ => some x
  | fuel + 1, x, g =>
    if g.natAbs ≤ 308 then
      let power := Double.ofDecimal false 1 g.natAbs
      if g < 0 then some (x.div power)
      else if (x.mul power).isInfinite then none
      else some (x.mul power)
    else if !x.isNonzero then some x
    else if g < 0 then timesPower fuel (x.div (Double.ofDecimal false 1 308)) (g + 308)
    else none

/-- The number that the parts of its text make.  A whole number is kept if it has 64 bits.  Any
other becomes a double: its first digits make a number of 64 bits, further ones before the point
count as zeros and further ones after it do not count, and the power of ten follows. -/
def ofParts (negative : Bool) (integral fraction : List Char) (exponent : Option Int) :
    Option Json :=
  let (leading, zeros) := takeDigits 0 integral
  let (digits, unread) := takeDigits leading fraction
  let value : Int := if negative then -(leading : Int) else leading
  if fraction.isEmpty && exponent.isNone && zeros.isEmpty && !(negative && leading == 0) &&
      decide (Int64.minValue.toInt ≤ value) then
    some (.whole value)
  else
    let shift : Int := exponent.getD 0 + zeros.length - (fraction.length - unread.length : Nat)
    (timesPower 4 (Double.ofInt digits) shift).map fun x =>
      .double (.ofMagnitude negative x.magnitude)

def readNumber (s : List Char) : Option (Json × List Char) := do
  let (negative, s) := match s with
    | '-' :: s => (true, s)
    | s => (false, s)
  let (integral, s) ← readWholePart s
  let (fraction, s) ← readFractionPart s
  let (exponent, s) ← readExponent s
  (ofParts negative integral fraction exponent).map (·, s)

/-! ## 3. Values -/

def skipSpace (s : List Char) : List Char :=
  s.dropWhile fun c => c == ' ' || c == '\t' || c == '\r' || c == '\n'

/-- Passes the characters of a word. -/
def readWord : List Char → List Char → Option (List Char)
  | [], s => some s
  | c :: word, d :: s => if c = d then readWord word s else none
  | _ :: _, [] => none

mutual

/-- A value and the text after it. -/
def readValue : Nat → List Char → Option (Json × List Char)
  | 0, _ => none
  | fuel + 1, s =>
    match s with
    | '"' :: s => (readString fuel s).map fun (text, rest) => (.string text, rest)
    | '[' :: s =>
      match skipSpace s with
      | ']' :: rest => some (.array [], rest)
      | s => (readItems fuel s).map fun (items, rest) => (.array items, rest)
    | '\x7b' :: s =>
      match skipSpace s with
      | '\x7d' :: rest => some (.object [], rest)
      | s => (readMembers fuel [] s).map fun (members, rest) => (.object members, rest)
    | 't' :: s => (readWord "rue".toList s).map (.bool true, ·)
    | 'f' :: s => (readWord "alse".toList s).map (.bool false, ·)
    | 'n' :: s => (readWord "ull".toList s).map (.null, ·)
    | s => readNumber s

/-- The items of an array up to its end. -/
def readItems : Nat → List Char → Option (List Json × List Char)
  | 0, _ => none
  | fuel + 1, s => do
    let (item, s) ← readValue fuel (skipSpace s)
    match skipSpace s with
    | ',' :: s =>
      let (items, rest) ← readItems fuel s
      some (item :: items, rest)
    | ']' :: rest => some ([item], rest)
    | _ => none

/-- The members of an object up to its end, after those read before. -/
def readMembers : Nat → List (String × Json) → List Char →
    Option (List (String × Json) × List Char)
  | 0, _, _ => none
  | fuel + 1, members, s =>
    match skipSpace s with
    | '"' :: s => do
      let (key, s) ← readString fuel s
      let s ← readChar ':' (skipSpace s)
      let (value, s) ← readValue fuel (skipSpace s)
      let members := setMember members key value
      match skipSpace s with
      | ',' :: s => readMembers fuel members s
      | '\x7d' :: rest => some (members, rest)
      | _ => none
    | _ => none

end

/-- The value that a text writes. -/
def parse? (text : String) : Option Json := do
  let s := text.toList
  let (value, rest) ← readValue (2 * s.length + 2) (skipSpace s)
  if (skipSpace rest).isEmpty then some value else none

end Json

end Dossier
