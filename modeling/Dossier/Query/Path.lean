/-
# Field paths

A path such as `address.city` names a field inside a document inside a document.  It is split at
each point, so that a path without points is one segment and two points in a row have an empty
segment between them.

`Path.resolve` follows the segments and `Path.set` writes at their end, making documents of what is
in the way.
-/
import Dossier.Bson.Basic

namespace Dossier

namespace Path

/-- The parts between the points. -/
def split : List Char → List (List Char)
  | [] => [[]]
  | c :: s =>
    if c = '.' then [] :: split s
    else
      match split s with
      | [] => [[c]]
      | part :: parts => (c :: part) :: parts

/-- The segments of a path; there is at least one. -/
def segments (path : String) : List String := (split path.toList).map String.ofList

/-- The value at the end of the segments; every one before the last names a document. -/
def resolve : List String → Document → Option Bson
  | [], _ => none
  | [key], d => d.get? key
  | key :: rest, d =>
    match d.get? key with
    | some (.document inner) => resolve rest inner
    | _ => none

/-- Sets the value at the end of the segments.  A value on the way that is no document, or is
missing, becomes one. -/
def set : List String → Bson → Document → Document
  | [], _, d => d
  | [key], value, d => d.insert key value
  | key :: rest, value, d =>
    let inner := match d.get? key with
      | some (.document inner) => inner
      | _ => []
    d.insert key (.document (set rest value inner))

theorem split_ne_nil (s : List Char) : split s ≠ [] := by
  cases s with
  | nil => simp [split]
  | cons c s =>
    unfold split
    split
    · simp
    · split <;> simp

theorem segments_ne_nil (path : String) : segments path ≠ [] := by
  simp [segments, split_ne_nil]

example : segments "a..b" = ["a", "", "b"] := by decide
example : segments "" = [""] := by decide

end Path

end Dossier
