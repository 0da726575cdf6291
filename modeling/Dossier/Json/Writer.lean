/-
# Writing JSON

Values are written without blanks.  In strings only the quote, the backslash and control characters
are escaped.  A double has a point always, so that it stays apart from a whole number; a NaN and
the infinities, which JSON has no numbers for, are written as null.
-/
import Dossier.Double.Shortest
import Dossier.Json.Basic
import Dossier.Text.Hex

namespace Dossier

namespace Json

/-- A character inside a string. -/
def escapeChar (c : Char) : List Char :=
  if c = '"' then ['\\', '"']
  else if c = '\\' then ['\\', '\\']
  else if c = '\n' then ['\\', 'n']
  else if c = '\r' then ['\\', 'r']
  else if c = '\t' then ['\\', 't']
  else if c.toNat < 32 then ['\\', 'u', '0', '0', hexDigit (c.toNat / 16), hexDigit (c.toNat % 16)]
  else [c]

def renderString (s : String) : String :=
  "\"" ++ String.ofList (s.toList.flatMap escapeChar) ++ "\""

def renderDouble (x : Double) : String :=
  if x.isNaN || x.isInfinite then "null"
  else
    let text := x.toText
    if text.toList.contains '.' then text else text ++ ".0"

mutual

/-- The value as JSON text. -/
def render : Json → String
  | .null => "null"
  | .bool b => if b then "true" else "false"
  | .whole n => toString n
  | .double x => renderDouble x
  | .string s => renderString s
  | .array items => "[" ++ ",".intercalate (renderItems items) ++ "]"
  | .object members => "\x7b" ++ ",".intercalate (renderMembers members) ++ "\x7d"

def renderItems : List Json → List String
  | [] => []
  | item :: rest => render item :: renderItems rest

def renderMembers : List (String × Json) → List String
  | [] => []
  | (key, value) :: rest => (renderString key ++ ":" ++ render value) :: renderMembers rest

end

end Json

end Dossier
