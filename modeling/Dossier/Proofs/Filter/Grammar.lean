/-
# The grammar of filter texts

A grammar says of a text that it begins with a condition, and what rest follows.  Everything here is
such a relation of a text to its rest, none of it says how to read: a run of blanks may end before
the blanks do, a number before its digits do, and alternatives stand beside each other without an
order.

There is one place where the order of alternatives shows.  The word `not` is a field path too, so
`not eq1or pr pr` can be taken for two comparisons joined by `or`, the first with the field `not`.
But `not` begins a negation wherever it can, and here it can, for `eq1or pr` is a comparison: a text
is `Shadowed` if it begins with the word `not` and then with a comparison.  So the grammar is given
over a notion of comparison (`Derives`), of which there are two: any comparison
(`Comparison Anywhere`), or one whose text is not shadowed (`Plain`).
-/
import Dossier.Filter.Reader

namespace Dossier

namespace Filter

/-! ## 1. Tokens -/

/-- The rest does not begin with a character of the kind. -/
def Stops (kind : Char → Bool) (rest : List Char) : Prop := ∀ c ∈ rest.head?, kind c = false

/-- Blanks, perhaps none, come before the rest. -/
def Blanks (s rest : List Char) : Prop :=
  ∃ blanks, (∀ c ∈ blanks, isSpace c = true) ∧ s = blanks ++ rest

/-- The word, in any case, comes before the rest, and the rest begins with what ends a keyword. -/
def Keyword (word s rest : List Char) : Prop :=
  ∃ text c after, equalIgnoringCase word text = true ∧ endsKeyword c = true ∧ rest = c :: after ∧
    s = text ++ rest

/-- A field path comes before the rest. -/
def Path (s : List Char) (path : String) (rest : List Char) : Prop :=
  ∃ c cs, startsPath c = true ∧ (∀ d ∈ cs, inPath d = true) ∧ path = String.ofList (c :: cs) ∧
    s = c :: (cs ++ rest)

/-- An operator comes before the rest, with all the letters there are. -/
def Token (s : List Char) (op : Operator) (rest : List Char) : Prop :=
  ∃ letters, (∀ c ∈ letters, c.isAlpha = true) ∧ Stops Char.isAlpha rest ∧
    Operator.ofToken? (String.ofList letters) = some op ∧ s = letters ++ rest

/-! ## 2. Literals -/

/-- A sign, or none: whether it is a minus. -/
inductive Sign : Bool → List Char → Prop where
  | none : Sign false []
  | plus : Sign false ['+']
  | minus : Sign true ['-']

/-- One or more digits. -/
def Numeral (digits : List Char) : Prop := digits ≠ [] ∧ ∀ c ∈ digits, c.isDigit = true

/-- The integer that a sign and digits write. -/
def signed (negative : Bool) (digits : List Char) : Int :=
  if negative then -(digitsValue digits : Int) else digitsValue digits

/-- Inside a quoted string, a quote is written twice. -/
def quoted (content : List Char) : List Char :=
  content.flatMap fun c => if c = '\'' then ['\'', '\''] else [c]

/-- The text writes the literal. -/
inductive Writes : Literal → List Char → Prop where
  | string (content : List Char) :
      Writes (.string (String.ofList content)) ('\'' :: (quoted content ++ ['\'']))
  | decimal {negative : Bool} {sign whole fraction : List Char} (hsign : Sign negative sign)
      (hwhole : Numeral whole) (hfraction : Numeral fraction) :
      Writes (.double (Double.ofDecimal negative (digitsValue (whole ++ fraction))
        (-fraction.length))) (sign ++ (whole ++ '.' :: fraction))
  | integer {negative : Bool} {sign digits : List Char} (hsign : Sign negative sign)
      (hdigits : Numeral digits) (hlow : Int64.minValue.toInt ≤ signed negative digits)
      (hhigh : signed negative digits ≤ Int64.maxValue.toInt) :
      Writes (.int (Int64.ofInt (signed negative digits))) (sign ++ digits)
  | trueWord {text : List Char} (h : equalIgnoringCase "true".toList text = true) :
      Writes (.bool true) text
  | falseWord {text : List Char} (h : equalIgnoringCase "false".toList text = true) :
      Writes (.bool false) text
  | nullWord {text : List Char} (h : equalIgnoringCase "null".toList text = true) :
      Writes .null text

/-- No rule on where a literal ends. -/
def Anywhere (_ : Literal) (_ : List Char) : Prop := True

/-- The literal goes as far as it can: the rest does not continue it. -/
def EndsBefore : Literal → List Char → Prop
  | .string _, rest => Stops (· == '\'') rest
  | .double _, rest => Stops Char.isDigit rest
  | .int _, rest =>
    Stops Char.isDigit rest ∧ ∀ after, rest = '.' :: after → Stops Char.isDigit after
  | _, _ => True

/-! ## 3. Comparisons -/

/-- A comparison comes before the rest, whose literal ends as it may. -/
inductive Comparison (ends : Literal → List Char → Prop) :
    List Char → Condition → List Char → Prop where
  | present {s s₁ s₂ rest : List Char} {path : String} (hpath : Path s path s₁)
      (hblanks : Blanks s₁ s₂) (hsome : s₁ ≠ s₂) (htoken : Token s₂ .pr rest) :
      Comparison ends s (.present path) rest
  | operand {s s₁ s₂ s₃ text rest : List Char} {path : String} {op : Operator} {value : Literal}
      (hpath : Path s path s₁) (hblanks : Blanks s₁ s₂) (hsome : s₁ ≠ s₂) (htoken : Token s₂ op s₃)
      (hop : op ≠ .pr) (hvalueBlanks : Blanks s₃ (text ++ rest)) (hvalue : Writes value text)
      (hends : ends value rest) : Comparison ends s (.operand path op value) rest

/-- The text begins with the word `not` and then with a comparison. -/
def Shadowed (s : List Char) : Prop :=
  ∃ s₁ s₂, Keyword "not".toList s s₁ ∧ Blanks s₁ s₂ ∧ ∃ c rest, Comparison EndsBefore s₂ c rest

/-- A comparison, where the word `not` does not begin a negation. -/
def Plain (s : List Char) (c : Condition) (rest : List Char) : Prop :=
  Comparison Anywhere s c rest ∧ ¬ Shadowed s

/-! ## 4. Expressions -/

/-- What the grammar has rules for. -/
inductive Category where
  /-- A negation, a group or a comparison. -/
  | unary
  /-- One or more conditions with the word of a connective between them. -/
  | chain (connective : Connective)
  /-- A chain with blanks around it. -/
  | expression

/-- The items of a chain: `and` binds tighter than `or`. -/
def Category.item : Connective → Category
  | .and => .unary
  | .or => .chain .and

/-- A condition of the category comes before the rest.  A chain folds to the left. -/
inductive Derives (comparison : List Char → Condition → List Char → Prop) :
    Category → List Char → Condition → List Char → Prop where
  | comparison {s rest : List Char} {c : Condition} (h : comparison s c rest) :
      Derives comparison .unary s c rest
  | negation {s s₁ s₂ rest : List Char} {inner : Condition} (hword : Keyword "not".toList s s₁)
      (hblanks : Blanks s₁ s₂) (h : Derives comparison .unary s₂ inner rest) :
      Derives comparison .unary s (.not inner) rest
  | group {s s₁ s₂ rest : List Char} {inner : Condition} (hblanks : Blanks s s₁)
      (h : Derives comparison .expression s₁ inner s₂) (hclose : Blanks s₂ (')' :: rest)) :
      Derives comparison .unary ('(' :: s) (.group inner) rest
  | single (connective : Connective) {s rest : List Char} {c : Condition}
      (h : Derives comparison (.item connective) s c rest) :
      Derives comparison (.chain connective) s c rest
  | joined (connective : Connective) {s s₁ s₂ s₃ s₄ rest : List Char} {left right : Condition}
      (hleft : Derives comparison (.chain connective) s left s₁) (hblanks : Blanks s₁ s₂)
      (hword : Keyword connective.token.toList s₂ s₃) (hright : Blanks s₃ s₄)
      (h : Derives comparison (.item connective) s₄ right rest) :
      Derives comparison (.chain connective) s (.logic connective left right) rest
  | expression {s s₁ s₂ rest : List Char} {c : Condition} (hbefore : Blanks s s₁)
      (h : Derives comparison (.chain .or) s₁ c s₂) (hafter : Blanks s₂ rest) :
      Derives comparison .expression s c rest

end Filter

end Dossier
