import Stencil.Number.Decimal
import Stencil.Number.Reading

/-!
# Values and Keys

The values that templates are filled with. A value is either complete in
itself or the address of an object in a store; what an address leads to can
change and can be shared, which is why objects are not part of the value.

Keys name properties. The properties of an object have an order of their own:
keys that are array indices come first, by size, then the other texts and
then the symbols, each in order of arrival. `Keyed` is an association list in
that order.

## Main definitions

* `Ref`, `Value`: Addresses and values.
* `Key`: The name of a property.
* `indexOf?`: The array index that a text is the canonical form of.
* `Keyed.set`: Setting a key, which keeps the place of a known key.
-/

namespace Stencil

/-- The address of an object in a store. -/
structure Ref where
  index : Nat
deriving DecidableEq, Inhabited

/-- A value. -/
inductive Value where
  | undefined
  | null
  | boolean (b : Bool)
  | number (n : Number)
  | bigint (n : Int)
  | text (s : String)
  | symbol (label : String)
  | object (r : Ref)
deriving DecidableEq, Inhabited

/-- The name of a property. -/
inductive Key where
  | text (s : String)
  | symbol (label : String)
deriving DecidableEq

/-- The text of an integer, with a sign if it is negative. -/
def integerText (n : Int) : String :=
  String.ofList ((if n < 0 then ['-'] else []) ++ Nat.toDigits 10 n.natAbs)

/-- The array index that a text is the canonical form of, below `2 ^ 32 - 1`:
    decimal digits without a leading zero. -/
def indexOf? (s : String) : Option Nat :=
  match s.toList with
  | [] => none
  | c :: cs =>
    if c = '0' ∧ cs ≠ [] then none
    else if (c :: cs).all Char.isDigit then
      match Number.readDigits? 10 0 (c :: cs) with
      | some n => if n < twoTo 32 - 1 then some n else none
      | none => none
    else none

namespace Key

/-- The array index that a key is. -/
def index? : Key → Option Nat
  | text s => indexOf? s
  | symbol _ => none

/-- Whether a new key goes before a known one in the order of properties. -/
def precedes (key known : Key) : Bool :=
  match key.index?, known.index? with
  | some i, some j => i < j
  | some _, none => true
  | none, some _ => false
  | none, none =>
    match key, known with
    | text _, symbol _ => true
    | _, _ => false

end Key

/-- Something for each of some keys, in the order of properties. -/
abbrev Keyed (α : Type) := List (Key × α)

namespace Keyed

variable {α : Type}

/-- What a key stands for. -/
def get? (entries : Keyed α) (key : Key) : Option α :=
  entries.lookup key

/-- Put a new key in its place. -/
def insert (key : Key) (a : α) : Keyed α → Keyed α
  | [] => [(key, a)]
  | (known, b) :: more =>
    if key.precedes known then (key, a) :: (known, b) :: more
    else (known, b) :: insert key a more

/-- Change what a known key stands for. -/
def replace (key : Key) (a : α) (entries : Keyed α) : Keyed α :=
  entries.map fun (known, b) => if known = key then (known, a) else (known, b)

/-- Let a key stand for something; a known key keeps its place. -/
def set (key : Key) (a : α) (entries : Keyed α) : Keyed α :=
  match entries.get? key with
  | some _ => entries.replace key a
  | none => entries.insert key a

/-- The entries without those of a key. -/
def erase (key : Key) (entries : Keyed α) : Keyed α :=
  entries.filter fun (known, _) => known ≠ key

/-- Entries set one after the other. -/
def ofList (pairs : List (Key × α)) : Keyed α :=
  pairs.foldl (fun entries (key, a) => entries.set key a) []

/-- The entries whose key is a text. -/
def texts (entries : Keyed α) : List (String × α) :=
  entries.filterMap fun (key, a) =>
    match key with
    | .text s => some (s, a)
    | .symbol _ => none

end Keyed

namespace Value

/-- Whether a value counts as true. -/
def holds : Value → Bool
  | undefined | null => false
  | boolean b => b
  | number (.finite _ significand _) => significand ≠ 0
  | number .nan => false
  | number (.infinite _) => true
  | bigint n => n ≠ 0
  | text s => s ≠ ""
  | symbol _ | object _ => true

/-- Whether values are the same: numbers as numbers, so the two zeros are and
    what is no number is not, and objects by their address. -/
def same (v w : Value) : Bool :=
  match v, w with
  | number m, number n => m ≠ .nan && m.asKey == n.asKey
  | v, w => v == w

/-- A value as a key of a collection: the two zeros are one key. -/
def asKey : Value → Value
  | number n => number n.asKey
  | v => v

end Value

end Stencil
