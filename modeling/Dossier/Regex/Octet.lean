/-
# Characters as octets

The encodings of the characters of a range are covered by sequences of octet ranges
(`octetSequences`): a sequence stands for the encodings that have in each place an octet of its
range there.  A range is split until one sequence covers each part.
-/
namespace Dossier

/-- The octets between two, both included. -/
abbrev OctetRange := Nat × Nat

/-- The octets that encode a character. -/
def octetsOf (c : Char) : List Nat := (String.utf8EncodeChar c).map UInt8.toNat

/-- The last code points whose encodings have one, two and three octets. -/
def lengthBounds : List Nat := [0x7F, 0x7FF, 0xFFFF]

/-- The last code point of the first part of a range that no single sequence covers.  All code
points of a part have encodings of one length; where the leading octets differ, the octets after
them take all values. -/
def splitPoint? (first last : Nat) : Option Nat :=
  let aligned (width : Nat) : Option Nat :=
    if first / width = last / width then none
    else if first % width ≠ 0 then some ((first / width + 1) * width - 1)
    else if last % width ≠ width - 1 then some (last / width * width - 1)
    else none
  lengthBounds.find? (fun bound => first ≤ bound && bound < last) <|>
    if last ≤ 0x7F then none else [0x40, 0x1000, 0x40000].findSome? aligned

/-- The sequences of octet ranges that cover the encodings of a range, in rising order. -/
def octetSequences (first last : Nat) : List (List OctetRange) :=
  match splitPoint? first last with
  | none => [(octetsOf (Char.ofNat first)).zip (octetsOf (Char.ofNat last))]
  | some middle =>
    if first ≤ middle ∧ middle < last then
      octetSequences first middle ++ octetSequences (middle + 1) last
    else []
termination_by last - first

example : octetSequences 0x61 0x7A = [[(0x61, 0x7A)]] := by cbv
example : octetSequences 0xE0 0x17F =
    [[(0xC3, 0xC3), (0xA0, 0xBF)], [(0xC4, 0xC5), (0x80, 0xBF)]] := by cbv

end Dossier
