/-
# Tokens of filter texts

Each reader here takes the characters before it and either gives what it read and the characters
after it, or reads nothing.  Blanks between tokens are spaces, tabs and ends of line; a keyword is
followed by white space of any kind or by a parenthesis; a literal ends where its own characters
end, and nothing need separate it from what comes next.
-/
import Dossier.Condition.Basic
import Dossier.Double.Rounding
import Dossier.Unicode.Blank

namespace Dossier

namespace Filter

/-! ## 1. Blanks and keywords -/

/-- The blanks between tokens. -/
def isSpace (c : Char) : Bool := c == ' ' || c == '\t' || c == '\r' || c == '\n'

def skipSpace (s : List Char) : List Char := s.dropWhile isSpace

/-- What may follow a keyword. -/
def endsKeyword (c : Char) : Bool := isBlank c || c == '('

/-- Passes a word in any ASCII case. -/
def readWord (word : List Char) (s : List Char) : Option (List Char) :=
  if equalIgnoringCase word (s.take word.length) then some (s.drop word.length) else none

/-- Passes a keyword, and not what follows it. -/
def readKeyword (word : List Char) (s : List Char) : Option (List Char) :=
  match readWord word s with
  | some (c :: rest) => if endsKeyword c then some (c :: rest) else none
  | _ => none

/-! ## 2. Literals -/

/-- The content of a quoted string and the text after the closing quote.  A quote inside the
string is written twice. -/
def readQuoted : List Char → Option (List Char × List Char)
  | [] => none
  | '\'' :: '\'' :: s => (readQuoted s).map fun (content, rest) => ('\'' :: content, rest)
  | '\'' :: s => some ([], s)
  | c :: s => (readQuoted s).map fun (content, rest) => (c :: content, rest)

def readString : List Char → Option (Literal × List Char)
  | '\'' :: s => (readQuoted s).map fun (content, rest) => (.string (String.ofList content), rest)
  | _ => none

/-- A sign, if there is one: whether it is a minus. -/
def readSign : List Char → Bool × List Char
  | '-' :: s => (true, s)
  | '+' :: s => (false, s)
  | s => (false, s)

/-- One or more digits. -/
def readNumeral (s : List Char) : Option (List Char × List Char) :=
  match s.takeWhile Char.isDigit with
  | [] => none
  | digits => some (digits, s.dropWhile Char.isDigit)

/-- Digits, a point and digits, with or without a sign. -/
def readDecimal (s : List Char) : Option (Literal × List Char) := do
  let (negative, s) := readSign s
  let (whole, s) ← readNumeral s
  let s ← readChar '.' s
  let (fraction, s) ← readNumeral s
  some (.double (Double.ofDecimal negative (digitsValue (whole ++ fraction)) (-fraction.length)), s)

/-- Digits with or without a sign, for an integer of 64 bits. -/
def readInteger (s : List Char) : Option (Literal × List Char) := do
  let (negative, s) := readSign s
  let (digits, s) ← readNumeral s
  let value : Int := if negative then -(digitsValue digits : Int) else digitsValue digits
  if Int64.minValue.toInt ≤ value ∧ value ≤ Int64.maxValue.toInt then
    some (.int (Int64.ofInt value), s)
  else none

/-- A literal: a string, a number, or one of the words `true`, `false` and `null`. -/
def readValue (s : List Char) : Option (Literal × List Char) :=
  readString s
    <|> readDecimal s
    <|> readInteger s
    <|> (readWord "true".toList s).map (.bool true, ·)
    <|> (readWord "false".toList s).map (.bool false, ·)
    <|> (readWord "null".toList s).map (.null, ·)

/-! ## 3. Field paths -/

def startsPath (c : Char) : Bool := c.isAlpha || c == '_' || c == '$'

def inPath (c : Char) : Bool := c.isAlphanum || c == '_' || c == '.' || c == '$'

/-- A path such as `_id` or `address.city`. -/
def readPath : List Char → Option (String × List Char)
  | [] => none
  | c :: s =>
    if startsPath c then some (String.ofList (c :: s.takeWhile inPath), s.dropWhile inPath)
    else none

end Filter

end Dossier
