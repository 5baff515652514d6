import Stencil.Value

/-!
# Collections

Lists as maps, as sets and as arrays with empty places.

A map remembers the order in which its keys arrived, and a set that of its
elements. Keys and elements are told apart as values are, except that the two
zeros are one.

## Main definitions

* `setEntry`: A map with one of its entries set.
* `addElement`: A set with an element added.
* `setElement`, `resize`: An array with an element set, or of another length.
-/

namespace Stencil

/-- Entries of a map with one of them set; a known key keeps its place. -/
def setEntry (key v : Value) : List (Value × Value) → List (Value × Value)
  | [] => [(key.asKey, v)]
  | (known, old) :: more =>
    if known = key.asKey then (known, v) :: more else (known, old) :: setEntry key v more

/-- The entries of a map that is filled with pairs in turn. -/
def entriesOf (pairs : List (Value × Value)) : List (Value × Value) :=
  pairs.foldl (fun entries (key, v) => setEntry key v entries) []

/-- What a map has under a key. -/
def valueAt? (key : Value) (entries : List (Value × Value)) : Option Value :=
  entries.lookup key.asKey

/-- Elements of a set with one of them added. -/
def addElement (v : Value) (elements : List Value) : List Value :=
  if elements.contains v.asKey then elements else elements ++ [v.asKey]

/-- The elements of a set that is filled with values in turn. -/
def elementsOf (vs : List Value) : List Value :=
  vs.foldl (fun elements v => addElement v elements) []

/-- Elements of an array with one of them set; places in between are empty. -/
def setElement (i : Nat) (v : Value) (elements : List (Option Value)) : List (Option Value) :=
  if i < elements.length then elements.set i (some v)
  else elements ++ List.replicate (i - elements.length) none ++ [some v]

/-- Elements of an array cut off at a length, or filled up to it with empty
    places. -/
def resize (length : Nat) (elements : List (Option Value)) : List (Option Value) :=
  elements.take length ++ List.replicate (length - elements.length) none

end Stencil
