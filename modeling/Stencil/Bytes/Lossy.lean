import Stencil.Bytes.Utf8

/-!
# Lossy UTF-8

Octets as text where they are text, with a replacement character for each
stretch that is not. A stretch is as long as octets keep to the rules of the
character they started, and at least one octet.

## Main definitions

* `Utf8.readLossy`: The text of any octets.
-/

namespace Stencil

namespace Utf8

/-- How many octets a first octet asks for behind it. -/
def tailCount (first : Nat) : Nat :=
  if first < 0x80 then 0
  else if 0xC2 ≤ first ∧ first ≤ 0xDF then 1
  else if 0xE0 ≤ first ∧ first ≤ 0xEF then 2
  else if 0xF0 ≤ first ∧ first ≤ 0xF4 then 3
  else 0

/-- How many octets from the start keep to the rules of one character. -/
def stretch (octets : List UInt8) : Nat :=
  match octets with
  | [] => 0
  | a :: rest =>
    let wanted := tailCount a.toNat
    let second := secondRange a.toNat
    match rest.take wanted with
    | [] => 1
    | b :: more =>
      if within second.1 second.2 b then 2 + (more.takeWhile (within 0x80 0xBF)).length else 1

/-- The text of octets, given a bound on their number. -/
def lossyWithin : Nat → List UInt8 → List Char
  | 0, _ => []
  | _, [] => []
  | bound + 1, octets =>
    let count := max 1 (stretch octets)
    match decode? (octets.take count) with
    | some cs => cs ++ lossyWithin bound (octets.drop count)
    | none => '\uFFFD' :: lossyWithin bound (octets.drop count)

/-- The text of any octets. -/
def readLossy (octets : List UInt8) : List Char :=
  lossyWithin octets.length octets

end Utf8

end Stencil
