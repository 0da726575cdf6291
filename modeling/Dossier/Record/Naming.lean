/-
# Names of fields, and keys from them

A field is named as its identifier is written.  If it declares no key of its own it is stored under
its name in camel case: underscores inside the name drop out, and the letter after them becomes a
capital.  Underscores at the start stay, and the letter after those becomes small.
-/
import Dossier.Unicode.Case

namespace Dossier

/-! ## 1. Identifiers -/

/-- An identifier by which a field is declared.  A raw one may spell a keyword. -/
structure Identifier where
  letters : String
  raw : Bool := false
deriving DecidableEq, Inhabited

/-- The name of the field, in which a raw identifier keeps its mark. -/
def Identifier.fieldName (i : Identifier) : String :=
  if i.raw then "r#" ++ i.letters else i.letters

/-! ## 2. Camel case -/

namespace Naming

/-- What follows the first letter of a name; `raised` tells whether an underscore came before. -/
def joinWords (raised : Bool) : List Char → List Char
  | [] => []
  | c :: rest =>
    if c = '_' then joinWords true rest
    else (if raised then upperCase c else [c]) ++ joinWords false rest

/-- A name without underscores at its start. -/
def lowerFirst : List Char → List Char
  | [] => []
  | c :: rest => lowerCase c ++ joinWords false rest

/-- The camel case of a name, as characters. -/
def camel : List Char → List Char
  | [] => []
  | c :: rest => if c = '_' then c :: camel rest else lowerFirst (c :: rest)

@[simp] theorem camel_underscore (rest : List Char) : camel ('_' :: rest) = '_' :: camel rest := rfl

theorem camel_cons {c : Char} (h : c ≠ '_') (rest : List Char) :
    camel (c :: rest) = lowerCase c ++ joinWords false rest := if_neg h

end Naming

/-- The camel case of a name. -/
def camelCase (name : String) : String := String.ofList (Naming.camel name.toList)

example : camelCase "placed_at" = "placedAt" := by decide
example : camelCase "__Long__name_" = "__longName" := by decide

end Dossier
