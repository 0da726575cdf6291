/-
# Keys of queries

A key of a query is the path of a field, or begins with a dollar sign and is then an operator.  At
the top of a query the only operators are those of the two connectives.
-/
import Dossier.Condition.Basic

namespace Dossier

/-- Whether a key is an operator. -/
def isOperatorKey (key : String) : Bool := key.toList.head? == some '$'

namespace Connective

def key : Connective → String
  | .and => "$and"
  | .or => "$or"

def ofKey? (key : String) : Option Connective :=
  if key = "$and" then some .and else if key = "$or" then some .or else none

@[simp] theorem ofKey?_key (c : Connective) : ofKey? c.key = some c := by
  cases c <;> rfl

theorem ofKey?_eq_none {key : String} (h : isOperatorKey key = false) : ofKey? key = none := by
  unfold ofKey?
  split
  · rename_i e
    subst e
    exact absurd h (by decide)
  · split
    · rename_i e
      subst e
      exact absurd h (by decide)
    · rfl

end Connective

end Dossier
