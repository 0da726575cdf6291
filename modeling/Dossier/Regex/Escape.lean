/-
# Texts as patterns

`Regex.escape` writes the pattern that matches a text literally: a backslash goes before each
character that has a meaning of its own in patterns.
-/
namespace Dossier

namespace Regex

/-- The characters that have, or may come to have, a meaning of their own in patterns. -/
def isMeta (c : Char) : Bool :=
  ['\\', '.', '+', '*', '?', '(', ')', '|', '[', ']', '\x7b', '\x7d', '^', '$', '#', '&', '-',
    '~'].contains c

/-- The pattern of a text. -/
def escape : List Char → List Char
  | [] => []
  | c :: rest => if isMeta c then '\\' :: c :: escape rest else c :: escape rest

end Regex

end Dossier
