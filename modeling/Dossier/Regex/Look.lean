/-
# Assertions

An assertion is about a place in a text.  It is decided by the character before the place and the
character after it (`Look.holds`), either of which is missing at an end of the text.
-/
import Dossier.Regex.Word

namespace Dossier

/-- An assertion.  Where words matter, they are those of all characters or those of ASCII. -/
inductive Look where
  | textStart
  | textEnd
  | lineStart
  | lineEnd
  /-- At the start of a line, where a carriage return may end a line too. -/
  | lineStartCrlf
  /-- At the end of a line, where a carriage return may end a line too. -/
  | lineEndCrlf
  /-- Between a character of a word and one of none. -/
  | boundary (unicode : Bool)
  | noBoundary (unicode : Bool)
  | wordStart (unicode : Bool)
  | wordEnd (unicode : Bool)
  /-- Not after a character of a word. -/
  | wordStartHalf (unicode : Bool)
  /-- Not before a character of a word. -/
  | wordEndHalf (unicode : Bool)
deriving DecidableEq, Inhabited

namespace Look

/-- Whether a character is there and belongs to words. -/
def inWord (unicode : Bool) (c : Option Char) : Bool := c.any (CharSet.words unicode).contains

/-- Whether an assertion holds between two characters. -/
def holds (before after : Option Char) : Look → Bool
  | textStart => before.isNone
  | textEnd => after.isNone
  | lineStart => before.isNone || before == some '\n'
  | lineEnd => after.isNone || after == some '\n'
  | lineStartCrlf =>
    before.isNone || before == some '\n' || (before == some '\r' && after != some '\n')
  | lineEndCrlf =>
    after.isNone || after == some '\r' || (after == some '\n' && before != some '\r')
  | boundary unicode => inWord unicode before != inWord unicode after
  | noBoundary unicode => inWord unicode before == inWord unicode after
  | wordStart unicode => !inWord unicode before && inWord unicode after
  | wordEnd unicode => inWord unicode before && !inWord unicode after
  | wordStartHalf unicode => !inWord unicode before
  | wordEndHalf unicode => !inWord unicode after

end Look

end Dossier
