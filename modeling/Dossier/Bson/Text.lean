/-
# Stored values as text

The text by which a message names a value: strings in double quotes and otherwise as they are,
numbers in plain decimal, arrays in brackets and documents in braces, code by its source.  Dates are
written with a space between day and time, hours without a leading zero, and a fraction of at least
one digit; a date whose year has more than four digits is written as its milliseconds.
-/
import Dossier.Bson.Basic
import Dossier.Double.Shortest
import Dossier.Text.Hex
import Dossier.Time.Rfc3339

namespace Dossier

namespace Bson

/-- The fraction of a second without its last zeros, but with one digit at least. -/
def fractionDigits (nanos : Nat) : List Char :=
  let digits := ((paddedDigits 9 nanos).reverse.dropWhile (· == '0')).reverse
  if digits.isEmpty then ['0'] else digits

/-- The year of a date in four digits, with a minus if it is negative. -/
def dateYear (year : Int) : List Char :=
  (if year < 0 then ['-'] else []) ++ paddedDigits 4 year.natAbs

/-- A date as text, in universal time, or its milliseconds since 1970. -/
def dateText (millis : Int) : String :=
  let date := CivilDate.ofDays (millis / 86400000)
  if 9999 < date.year.natAbs then toString millis
  else
    let inDay := (millis % 86400000).toNat
    let second := inDay / 1000
    String.ofList (dateYear date.year ++ '-' :: paddedDigits 2 date.month ++ '-' ::
      paddedDigits 2 date.day ++ ' ' :: Nat.toDigits 10 (second / 3600) ++ ':' ::
      paddedDigits 2 (second / 60 % 60) ++ ':' :: paddedDigits 2 (second % 60) ++ '.' ::
      fractionDigits (inDay % 1000 * 1000000) ++ " +00:00:00".toList)

mutual

/-- The text of a value. -/
def toText : Bson → String
  | .null => "null"
  | .boolean b => if b then "true" else "false"
  | .int32 n => toString n.toInt
  | .int64 n => toString n.toInt
  | .double x => x.toText
  | .string s => "\"" ++ s ++ "\""
  | .date millis => "DateTime(\"" ++ dateText millis.toInt ++ "\")"
  | .array items => "[" ++ ", ".intercalate (itemTexts items) ++ "]"
  | .document [] => "\x7b\x7d"
  | .document fields => "\x7b " ++ ", ".intercalate (fieldTexts fields) ++ " \x7d"
  | .objectId octets => "ObjectId(\"" ++ hexText octets ++ "\")"
  | .binary subtype octets =>
    "Binary(0x" ++ String.ofList (Nat.toDigits 16 subtype.toNat) ++ ", " ++
      String.ofList (base64Digits octets) ++ ")"
  | .regex pattern options => "/" ++ pattern ++ "/" ++ options
  | .timestamp time increment =>
    "Timestamp(" ++ toString time.toNat ++ ", " ++ toString increment.toNat ++ ")"
  | .decimal x => x.toText
  | .code source | .codeWithScope source _ => source
  | .symbol name => "Symbol(\"" ++ name ++ "\")"
  | .pointer collection octets => "DBPointer(" ++ collection ++ ", " ++ hexText octets ++ ")"
  | .undefined => "undefined"
  | .minKey => "MinKey"
  | .maxKey => "MaxKey"

def itemTexts : List Bson → List String
  | [] => []
  | b :: rest => toText b :: itemTexts rest

def fieldTexts : List (String × Bson) → List String
  | [] => []
  | (k, b) :: rest => ("\"" ++ k ++ "\": " ++ toText b) :: fieldTexts rest

end

end Bson

end Dossier
