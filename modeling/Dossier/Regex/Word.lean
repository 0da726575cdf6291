/-
# Words, digits and blanks

The sets that patterns name by a letter or between brackets and colons.  Those named by a letter
are taken among all characters or among those of ASCII; those between colons are sets of ASCII.
-/
import Dossier.Unicode.Derived

namespace Dossier

namespace CharSet

/-! ## 1. Sets of ASCII -/

def asciiUpper : CharSet := .range 0x41 0x5A

def asciiLower : CharSet := .range 0x61 0x7A

def asciiDigits : CharSet := .range 0x30 0x39

def asciiLetters : CharSet := asciiUpper.union asciiLower

def asciiWord : CharSet := .unionAll [asciiLetters, asciiDigits, .single '_']

def asciiBlanks : CharSet := (range 0x09 0x0D).union (.single ' ')

/-- The set of a name between brackets and colons. -/
def bracketClass? (name : String) : Option CharSet :=
  match name with
  | "alnum" => some (asciiLetters.union asciiDigits)
  | "alpha" => some asciiLetters
  | "ascii" => some (.range 0 0x7F)
  | "blank" => some (.ofCodes [0x09, 0x20])
  | "cntrl" => some (.ofRanges [(0, 0x1F), (0x7F, 0x7F)])
  | "digit" => some asciiDigits
  | "graph" => some (.range 0x21 0x7E)
  | "lower" => some asciiLower
  | "print" => some (.range 0x20 0x7E)
  | "punct" => some ((range 0x21 0x7E).difference (asciiLetters.union asciiDigits))
  | "space" => some asciiBlanks
  | "upper" => some asciiUpper
  | "word" => some asciiWord
  | "xdigit" => some (.ofRanges [(0x30, 0x39), (0x41, 0x46), (0x61, 0x66)])
  | _ => none

/-! ## 2. Sets named by a letter -/

/-- Letters, marks, digits, connectors such as the underscore, and the joiners. -/
def unicodeWord : CharSet :=
  .unionAll [CharProperty.alphabetic.members, categoryMn.members, categoryMc.members,
    categoryMe.members, categoryNd.members, categoryPc.members, CharProperty.joinControl.members]

/-- The characters of words. -/
def words (unicode : Bool) : CharSet := if unicode then unicodeWord else asciiWord

def digits (unicode : Bool) : CharSet := if unicode then categoryNd.members else asciiDigits

def blanks (unicode : Bool) : CharSet :=
  if unicode then CharProperty.whiteSpace.members else asciiBlanks

example : asciiWord.ranges = #[(0x30, 0x39), (0x41, 0x5A), (0x5F, 0x5F), (0x61, 0x7A)] := by cbv

end CharSet

end Dossier
