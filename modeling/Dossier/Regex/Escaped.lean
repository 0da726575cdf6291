/-
# Escapes in patterns

What a backslash and the characters after it stand for: a character, a set or an assertion.
References to groups are without meaning.
-/
import Dossier.Regex.Class
import Dossier.Regex.Options

namespace Dossier

namespace Regex

/-- What an escape stands for. -/
inductive Escaped where
  /-- A character, and whether it was written as an octet. -/
  | char (c : Char) (octet : Bool)
  | set (members : CharSet)
  | look (assertion : Look)

/-! ## 1. Numbers of characters -/

/-- A number of hexadecimal digits, with what is passed over between them. -/
def readHexDigits (o : Options) : Nat → Nat → List Char → Option (Nat × List Char)
  | 0, n, s => some (n, s)
  | width + 1, n, s =>
    match o.skip s with
    | [] => none
    | c :: s => do readHexDigits o width (16 * n + (← hexValue? c)) s

/-- Hexadecimal digits up to a closing brace. -/
def readHexBraced (o : Options) : Nat → Option Nat → List Char → Option (Nat × List Char)
  | 0, _, _ => none
  | fuel + 1, n, s =>
    match o.skip s with
    | [] => none
    | '\x7d' :: s => n.map (·, s)
    | c :: s => do readHexBraced o fuel (some (16 * n.getD 0 + (← hexValue? c))) s

/-- A character by its number: a fixed count of digits, or any count in braces. -/
def readHex (o : Options) (width : Nat) (s : List Char) : Option (Escaped × List Char) := do
  let (n, rest, braced) ← match o.skip s with
    | '\x7b' :: s => (readHexBraced o (s.length + 1) none s).map fun (n, rest) => (n, rest, true)
    | s => (readHexDigits o width 0 s).map fun (n, rest) => (n, rest, false)
  if n.isValidChar then some (.char (Char.ofNat n) (width = 2 && !braced), rest) else none

/-! ## 2. Names in braces -/

/-- The characters up to a closing brace. -/
def readBraced (o : Options) : Nat → List Char → List Char → Option (List Char × List Char)
  | 0, _, _ => none
  | fuel + 1, name, s =>
    match o.skip s with
    | [] => none
    | '\x7d' :: s => some (name.reverse, s)
    | c :: s => readBraced o fuel (c :: name) s

/-- Splits a text at the first place where a separator stands. -/
def splitAt? (separator : List Char) : List Char → Option (List Char × List Char)
  | [] => none
  | c :: s =>
    if separator.isPrefixOf (c :: s) then some ([], (c :: s).drop separator.length)
    else (splitAt? separator s).map fun (first, second) => (c :: first, second)

/-- The class of a name in braces, and whether the name negates it. -/
def bracedClass? (name : List Char) : Option (CharSet × Bool) :=
  match splitAt? ['!', '='] name with
  | some (property, value) => (valueClass? property value).map (·, true)
  | none =>
    match splitAt? [':'] name <|> splitAt? ['='] name with
    | some (property, value) => (valueClass? property value).map (·, false)
    | none => (namedClass? name).map (·, false)

/-- A class of Unicode, after the letter. -/
def readUnicodeClass (o : Options) (negated : Bool) (s : List Char) :
    Option (Escaped × List Char) := do
  if !o.unicode then none
  let ((members, opposite), rest) ← match o.skip s with
    | [] => none
    | '\x7b' :: s => do
      let (name, rest) ← readBraced o (s.length + 1) [] s
      some (← bracedClass? name, rest)
    | c :: s => (category? (looseName [c])).map fun members => ((members, false), s)
  let members ← o.negate (negated != opposite) (o.fold members)
  some (.set members, rest)

/-- A boundary of a word, or one side of a boundary named in braces. -/
def readBoundary (o : Options) (s : List Char) : Option (Escaped × List Char) :=
  let plain := some (Escaped.look (.boundary o.unicode), s)
  let inName (c : Char) := c.isAlpha || c == '-'
  match s with
  | '\x7b' :: rest =>
    match o.skip rest with
    | [] => none
    | c :: _ =>
      -- other braces count repetitions
      if !inName c then plain
      else do
        let (name, rest) ← readBraced o (rest.length + 1) [] rest
        match String.ofList name with
        | "start" => some (.look (.wordStart o.unicode), rest)
        | "end" => some (.look (.wordEnd o.unicode), rest)
        | "start-half" => some (.look (.wordStartHalf o.unicode), rest)
        | "end-half" => some (.look (.wordEndHalf o.unicode), rest)
        | _ => none
  | _ => plain

/-! ## 3. Escapes -/

/-- A class of one letter, negated if the letter is a capital. -/
def letterClass (o : Options) (c : Char) : Option CharSet :=
  let members : CharSet := match c.toLower with
    | 'd' => .digits o.unicode
    | 's' => .blanks o.unicode
    | _ => .words o.unicode
  o.negate c.isUpper members

/-- What stands after a backslash. -/
def readEscape (o : Options) : List Char → Option (Escaped × List Char)
  | [] => none
  | c :: s =>
    let plain (d : Char) : Option (Escaped × List Char) := some (.char d false, s)
    if c.isDigit then none
    else
      match c with
      | 'x' => readHex o 2 s
      | 'u' => readHex o 4 s
      | 'U' => readHex o 8 s
      | 'p' => readUnicodeClass o false s
      | 'P' => readUnicodeClass o true s
      | 'd' | 's' | 'w' | 'D' | 'S' | 'W' =>
        (letterClass o c).map fun members => (.set members, s)
      | 'a' => plain '\x07'
      | 'f' => plain '\x0c'
      | 't' => plain '\t'
      | 'n' => plain '\n'
      | 'r' => plain '\r'
      | 'v' => plain '\x0b'
      | 'A' => some (.look .textStart, s)
      | 'z' => some (.look .textEnd, s)
      | 'b' => readBoundary o s
      | 'B' => some (.look (.noBoundary o.unicode), s)
      | '<' => some (.look (.wordStart o.unicode), s)
      | '>' => some (.look (.wordEnd o.unicode), s)
      | _ => if c.isAlpha || 128 ≤ c.toNat then none else plain c

end Regex

end Dossier
