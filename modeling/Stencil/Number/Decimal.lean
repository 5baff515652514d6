import Stencil.Number

/-!
# Shortest Decimal Text

A finite number is written with the fewest digits that read back as it, and
of those the digits nearest to it.

The reals that round to a double form an interval around it. A decimal with
few digits is a point of a coarse grid `10 ^ k`, so the search goes from
coarse grids to fine ones and stops at the first that has a point in the
interval: no shorter decimal reads back. Only the two neighbours of the
number on a grid have to be tried, since every point of the grid inside the
interval has one of them between itself and the number.

Integers below `2 ^ 53` take no search. Their neighbours are at least one
apart, so all their digits are needed.

## Main definitions

* `Number.shortest`: The digits, and the power of ten that scales them.
* `Number.layout`: Where the point goes, and from when on an exponent is
  written.
* `Number.text`: The text of a number.
-/

namespace Stencil

namespace Number

/-- A finite positive double on its own grid: the value is `significand *
    2 ^ exponent` with 53 bits, fewer only on the finest grid. -/
def aligned (significand : Nat) (exponent : Int) : Nat × Int :=
  let q := max (-1074) (exponent + significand.log2 - 52)
  (significand * twoTo (exponent - q).toNat, q)

/-- The point of the grid `10 ^ k` nearest to the number `m * 2 ^ q`, if one
    reads back as it. Lengths are counted in quarters of `2 ^ q`, since the
    interval ends half a step away, and a quarter below a power of two. -/
def gridPoint? (m : Nat) (q k : Int) : Option Nat :=
  let scale := twoTo (q - 2).toNat * tenTo (-k).toNat
  let step := twoTo (2 - q).toNat * tenTo k.toNat
  let value := 4 * m * scale
  let low := (4 * m - (if m = twoTo 52 ∧ -1074 < q then 1 else 2)) * scale
  let high := (4 * m + 2) * scale
  let inside (d : Nat) : Bool :=
    if m % 2 = 0 then low ≤ d * step ∧ d * step ≤ high
    else low < d * step ∧ d * step < high
  let below := value / step
  let above := below + 1
  match decide (0 < below) && inside below, inside above with
  | false, false => none
  | true, false => some below
  | false, true => some above
  | true, true => some (divideNearest value step)

/-- The first grid, from `10 ^ k` downward, with a point that reads back. -/
def searchGrids (m : Nat) (q : Int) : Nat → Int → Nat × Int
  | 0, k => (0, k)
  | bound + 1, k =>
    match gridPoint? m q k with
    | some d => (d, k)
    | none => searchGrids m q bound (k - 1)

/-- The shortest decimal `d * 10 ^ k` that reads back as the number. The
    search starts above the leading digit and ends on the grid of 17 digits
    at the latest. -/
def shortest (significand : Nat) (exponent : Int) : Nat × Int :=
  let (m, q) := aligned significand exponent
  searchGrids m q 420 ((exponent + significand.log2 + 1) * 30103 / 100000 + 1)

/-- Digits with a decimal point after the first `point` of them. Positional
    from six zeros after the point up to 21 digits before it, otherwise one
    digit, a fraction and a signed exponent. -/
def layout (digits : List Char) (point : Int) : String :=
  let count : Int := digits.length
  if count ≤ point ∧ point ≤ 21 then
    String.ofList (digits ++ List.replicate (point - count).toNat '0')
  else if 0 < point ∧ point ≤ 21 then
    String.ofList (digits.take point.toNat ++ '.' :: digits.drop point.toNat)
  else if -6 < point ∧ point ≤ 0 then
    String.ofList ('0' :: '.' :: List.replicate (-point).toNat '0' ++ digits)
  else
    let fraction := match digits.drop 1 with
      | [] => []
      | more => '.' :: more
    let power := point - 1
    let sign := if power < 0 then '-' else '+'
    String.ofList (digits.take 1 ++ fraction ++ 'e' :: sign :: Nat.toDigits 10 power.natAbs)

/-- The text of a positive finite number. -/
def magnitudeText (significand : Nat) (exponent : Int) : String :=
  if 0 ≤ exponent ∧ significand * twoTo exponent.toNat ≤ maxSafe then
    String.ofList (Nat.toDigits 10 (significand * twoTo exponent.toNat))
  else
    let (d, k) := shortest significand exponent
    let digits := Nat.toDigits 10 d
    layout digits (digits.length + k)

/-- The text of a number. Zero has no sign. -/
def text : Number → String
  | nan => "NaN"
  | infinite negative => if negative then "-Infinity" else "Infinity"
  | finite negative significand exponent =>
    if significand = 0 then "0"
    else (if negative then "-" else "") ++ magnitudeText significand exponent

end Number

end Stencil
