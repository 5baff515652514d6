/-!
# Double-Precision Numbers

The numbers that values hold: signed dyadic rationals of at most 53
significant bits, the two infinities, and one value that is not a number.

A finite number is kept as an odd significand times a power of two, so each
number has one representation and equality of representations is equality of
numbers, the two zeros apart. Everything is exact `Nat` and `Int` arithmetic.
That is the point of not using `Float`: its operations are opaque to a proof,
while here the one rounding step, `nearest`, is a definition like any other.

## Main definitions

* `Number`: A double.
* `Number.nearest`: The double nearest to a ratio, a tie to the even one.
* `Number.ofInt`: An integer of at most 53 bits, exactly.
* `Number.toInt?`: The integer that a number is, if it is one.
* `Number.truncate?`, `Number.nearestInt?`: Integers near a number.
-/

namespace Stencil

/-- A double. The significand of a finite number is odd, or zero beside the
    exponent zero; two zeros differ in sign alone. -/
inductive Number where
  | nan
  | infinite (negative : Bool)
  | finite (negative : Bool) (significand : Nat) (exponent : Int)
deriving DecidableEq, Inhabited

/-- A power of two. -/
def twoTo (n : Nat) : Nat :=
  Nat.pow 2 n

/-- A power of ten. -/
def tenTo (n : Nat) : Nat :=
  Nat.pow 10 n

@[simp]
theorem twoTo_zero : twoTo 0 = 1 := rfl

theorem twoTo_succ (n : Nat) : twoTo (n + 1) = twoTo n * 2 := rfl

/-- The odd part of a number and how often it was halved, given a bound on
    the halvings. -/
def splitTwos : Nat → Nat → Nat × Nat
  | 0, n => (n, 0)
  | bound + 1, n =>
    if n % 2 = 0 then
      let (odd, twos) := splitTwos bound (n / 2)
      (odd, twos + 1)
    else (n, 0)

/-- The quotient rounded to the nearest natural number, a half to the even
    neighbour. -/
def divideNearest (num den : Nat) : Nat :=
  let quotient := num / den
  let rest := 2 * (num % den)
  if rest < den ∨ (rest = den ∧ quotient % 2 = 0) then quotient else quotient + 1

namespace Number

/-- A significand times a power of two, brought to its one representation. -/
def dyadic (negative : Bool) (significand : Nat) (exponent : Int) : Number :=
  if significand = 0 then finite negative 0 0
  else
    let (odd, twos) := splitTwos significand.log2 significand
    finite negative odd (exponent + twos)

/-- The exponent of the coarsest grid `2 ^ q` that still has 53 bits for the
    ratio, or the finest grid there is. -/
def gridExponent (num den : Nat) : Int :=
  let size : Int := (num.log2 : Int) - den.log2
  let fine := size - 53
  let whole := num * twoTo (-fine).toNat / (den * twoTo fine.toNat)
  max (-1074) (if whole < twoTo 53 then fine else fine + 1)

/-- The double nearest to a ratio, a tie to the even significand; from
    `2 ^ 1024` on, infinity. -/
def nearest (negative : Bool) (num den : Nat) : Number :=
  if num = 0 then finite negative 0 0
  else
    let q := gridExponent num den
    let m := divideNearest (num * twoTo (-q).toNat) (den * twoTo q.toNat)
    if 971 < q ∨ (q = 971 ∧ twoTo 53 ≤ m) then infinite negative
    else dyadic negative m q

/-- An integer of at most 53 bits, exactly. -/
def ofInt (n : Int) : Number :=
  dyadic (decide (n < 0)) n.natAbs 0

/-- The integer that a number is. Both zeros are the integer zero. -/
def toInt? : Number → Option Int
  | finite negative significand exponent =>
    if exponent < 0 then none
    else
      let magnitude : Int := significand * twoTo exponent.toNat
      some (if negative then -magnitude else magnitude)
  | _ => none

/-- The number without its fraction, toward zero; nothing for an infinity or
    for what is not a number. -/
def truncate? : Number → Option Int
  | finite negative significand exponent =>
    let magnitude : Int :=
      significand * twoTo exponent.toNat / twoTo (-exponent).toNat
    some (if negative then -magnitude else magnitude)
  | _ => none

/-- Whether a number is above zero. -/
def isPositive : Number → Bool
  | finite negative significand _ => !negative && significand ≠ 0
  | infinite negative => !negative
  | nan => false

/-- The position in a text that a number stands for. An infinite one lies beyond
    every text, and what is not a number is the start. -/
def position : Number → Int
  | infinite negative => if negative then -twoTo 60 else twoTo 60
  | n => n.truncate?.getD 0

/-- The integer nearest to a number, a half to the even neighbour; nothing for
    an infinity or for what is not a number. -/
def nearestInt? : Number → Option Int
  | finite negative significand exponent =>
    let magnitude : Int :=
      divideNearest (significand * twoTo exponent.toNat) (twoTo (-exponent).toNat)
    some (if negative then -magnitude else magnitude)
  | _ => none

/-- Twice the number. -/
def double : Number → Number
  | finite negative significand exponent =>
    nearest negative (significand * twoTo (exponent + 1).toNat) (twoTo (-(exponent + 1)).toNat)
  | n => n

/-- A number as a key of a collection: the two zeros are one key. -/
def asKey : Number → Number
  | finite _ 0 _ => finite false 0 0
  | n => n

/-- The largest magnitude up to which every integer is a double. -/
def maxSafe : Nat := twoTo 53 - 1

end Number

end Stencil
