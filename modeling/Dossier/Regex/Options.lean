/-
# Options of patterns

Options decide what the parts of a pattern stand for.  They are set for the rest of the group that
they stand in or for a group of their own, each by a letter: `i` (letters match in either case),
`m` (the marks for the ends match at ends of lines), `s` (a point takes ends of lines), `x` (blanks
and comments are passed over), `R` (a carriage return ends lines too), `u` (sets are taken among
all characters, which is the case unless it is switched off) and `U` (repetitions are lazy unless
marked).
-/
import Dossier.Regex.Look
import Dossier.Unicode.Blank

namespace Dossier

namespace Regex

structure Options where
  caseless : Bool := false
  multiline : Bool := false
  dotAll : Bool := false
  extended : Bool := false
  crlf : Bool := false
  unicode : Bool := true
  lazy : Bool := false
deriving DecidableEq, Inhabited

namespace Options

/-! ## 1. Reading options -/

/-- Sets the option of a letter. -/
def set (o : Options) (letter : Char) (on : Bool) : Option Options :=
  match letter with
  | 'i' => some { o with caseless := on }
  | 'm' => some { o with multiline := on }
  | 's' => some { o with dotAll := on }
  | 'x' => some { o with extended := on }
  | 'R' => some { o with crlf := on }
  | 'u' => some { o with unicode := on }
  | 'U' => some { o with lazy := on }
  | _ => none

/-- Reads option letters up to the colon or parenthesis after them.  No letter and no minus stands
twice, and a letter follows the minus.  The result has the options, the end and whether there was
a letter. -/
def read (o : Options) (seen : List Char) : List Char → Option (Options × Char × List Char × Bool)
  | [] => none
  | c :: s =>
    if c = ':' ∨ c = ')' then
      if seen.head? = some '-' then none else some (o, c, s, !seen.isEmpty)
    else if seen.contains c then none
    else if c = '-' then read o (c :: seen) s
    else do read (← o.set c (!seen.contains '-')) (c :: seen) s

/-- Passes blanks and comments, in a comment or outside. -/
def skipExtended : Bool → List Char → List Char
  | _, [] => []
  | true, c :: s => skipExtended (c != '\n') s
  | false, c :: s =>
    if isBlank c then skipExtended false s
    else if c = '#' then skipExtended true s
    else c :: s

/-- Passes what is passed over between the parts of a pattern. -/
def skip (o : Options) (s : List Char) : List Char :=
  if o.extended then skipExtended false s else s

theorem skip_of_not_extended {o : Options} (h : o.extended = false) (s : List Char) :
    o.skip s = s := by simp [skip, h]

/-! ## 2. Sets and assertions under options -/

/-- The set with all characters that differ from its members only in case, if case does not
count. -/
def fold (o : Options) (members : CharSet) : CharSet :=
  if !o.caseless then members
  else if o.unicode then members.withCases
  else members.withAsciiCases

/-- The complement, if a set is negated.  With Unicode off it would hold parts of characters. -/
def negate (o : Options) (negated : Bool) (members : CharSet) : Option CharSet :=
  if !negated then some members
  else if o.unicode then some members.complement
  else none

/-- Any character but an end of line. -/
def dot (o : Options) : Option CharSet :=
  if !o.unicode then none
  else if o.dotAll then some .all
  else if o.crlf then some (CharSet.complement (.ofCodes [0x0A, 0x0D]))
  else some (CharSet.complement (.single '\n'))

def start (o : Options) : Look :=
  if !o.multiline then .textStart else if o.crlf then .lineStartCrlf else .lineStart

def stop (o : Options) : Look :=
  if !o.multiline then .textEnd else if o.crlf then .lineEndCrlf else .lineEnd

end Options

end Regex

end Dossier
