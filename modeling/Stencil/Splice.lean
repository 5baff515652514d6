import Stencil.Placeholder

/-!
# Splicing

Replacing placeholders in a source.

The result is put together from slices of the source and replacement texts,
so what is inserted is never looked at again: a replacement that contains
placeholder syntax goes in as it is. An occurrence without a replacement is
passed over and ends up inside the next slice.

## Main definitions

* `spliceFrom`: The result from a position on, in code units.
* `splice`: The source with its occurrences replaced.
-/

namespace Stencil

/-- The result from a position of the source on, given the occurrences still
    to come. -/
def spliceFrom (source : List Nat) (replacement : String → Option String) :
    Int → List Occurrence → List Nat
  | position, [] => sliceFrom source position
  | position, occurrence :: more =>
    match replacement occurrence.name with
    | none => spliceFrom source replacement position more
    | some text =>
      slice source position occurrence.start ++ codeUnits text.toList
        ++ spliceFrom source replacement occurrence.stop more

/-- The source with every occurrence that has a replacement exchanged for
    it. -/
def splice (source : String) (occurrences : List Occurrence)
    (replacement : String → Option String) : String :=
  String.ofList (ofCodeUnits (spliceFrom (codeUnits source.toList) replacement 0 occurrences))

end Stencil
