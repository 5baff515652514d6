/-!
# Punycode

Text of any characters in letters, digits and hyphens.

The basic characters come first, with a hyphen behind them. The others are
inserted one after the other in ascending order, and what is written is how many
places are passed over before each insertion: passing once over the whole text
counts as going on to the next character. These numbers are written with the
least digit first, in 36 digits whose weights follow the size of the numbers so
far.

## Main definitions

* `Punycode.encode`: Text in basic characters.
* `Punycode.decode?`: The text that basic characters stand for.
-/

namespace Stencil

namespace Punycode

/-- The digit of a value below 36. -/
def digit (d : Nat) : Char :=
  if d < 26 then Char.ofNat ('a'.toNat + d) else Char.ofNat ('0'.toNat + d - 26)

/-- The value of a digit. -/
def digitValue? (c : Char) : Option Nat :=
  if 'a' ≤ c ∧ c ≤ 'z' then some (c.toNat - 'a'.toNat)
  else if c.isDigit then some (c.toNat - '0'.toNat + 26)
  else none

/-- From where on a digit at a position ends its number. -/
def threshold (position bias : Nat) : Nat :=
  if position ≤ bias then 1 else min (position - bias) 26

theorem threshold_pos (position bias : Nat) : 0 < threshold position bias := by
  unfold threshold
  split <;> omega

/-- The bias for numbers of a size, counted from a position on. -/
def biasOf (size position : Nat) : Nat :=
  if 455 < size then biasOf (size / 35) (position + 36)
  else position + 36 * size / (size + 38)
termination_by size
decreasing_by omega

/-- The bias behind a number, with as many characters as there are then. -/
def adapt (number count : Nat) (isFirst : Bool) : Nat :=
  let size := if isFirst then number / 700 else number / 2
  biasOf (size + size / count) 0

/-! ### Writing -/

/-- The digits of a number from a position on. -/
def writeNumber (bias position number : Nat) : List Char :=
  let t := threshold position bias
  if number < t then [digit number]
  else digit (t + (number - t) % (36 - t))
    :: writeNumber bias (position + 36) ((number - t) / (36 - t))
termination_by number
decreasing_by
  have positive := threshold_pos position bias
  have bounded := Nat.div_le_self (number - threshold position bias)
    (36 - threshold position bias)
  omega

/-- What has been written: the digits, the places passed over since the last
    insertion, the bias, and how many characters there are. -/
structure Writing where
  digits : List Char := []
  passed : Nat := 0
  bias : Nat := 72
  count : Nat

/-- Pass over a character, or insert it if it is the one whose turn it is. -/
def Writing.pass (turn : Nat) (w : Writing) (c : Char) : Writing :=
  if c.toNat < turn then { w with passed := w.passed + 1 }
  else if c.toNat = turn then
    { digits := w.digits ++ writeNumber w.bias 36 w.passed
      passed := 0
      bias := adapt w.passed (w.count + 1) (w.digits = [])
      count := w.count + 1 }
  else w

/-- Insert characters in ascending order, given the character that would have its
    turn now. -/
def writeFrom (text : List Char) : Nat → Writing → List Nat → Writing
  | _, w, [] => w
  | next, w, turn :: more =>
    let w := { w with passed := w.passed + (turn - next) * (w.count + 1) }
    let w := text.foldl (Writing.pass turn) w
    writeFrom text (turn + 1) { w with passed := w.passed + 1 } more

/-- Whether a character is basic. -/
def isBasic (c : Char) : Bool :=
  c.toNat < 0x80

/-- Text in basic characters. -/
def encode (text : List Char) : List Char :=
  let basic := text.filter isBasic
  let turns := ((text.filter fun c => !isBasic c).map Char.toNat).mergeSort.eraseDups
  let w := writeFrom text 0x80 { count := basic.length } turns
  basic ++ (if basic = [] then [] else ['-']) ++ w.digits

/-! ### Reading -/

/-- A number from a position on, and what follows it. -/
def readNumber? (bias : Nat) : Nat → Nat → List Char → Option (Nat × List Char)
  | _, _, [] => none
  | position, weight, c :: cs => do
    let d ← digitValue? c
    let t := threshold position bias
    if d < t then return (d * weight, cs)
    else
      let (rest, cs) ← readNumber? bias (position + 36) (weight * (36 - t)) cs
      return (d * weight + rest, cs)

/-- Insert what digits stand for, which are at most so many, given the character
    whose turn it is and the place. -/
def readFrom? : Nat → Nat → Nat → Nat → List Char → List Char → Option (List Char)
  | _, _, _, _, text, [] => some text
  | 0, _, _, _, _, _ => none
  | bound + 1, bias, turn, place, text, cs => do
    let (number, cs) ← readNumber? bias 36 1 cs
    let count := text.length + 1
    let turn := turn + (place + number) / count
    let spot := (place + number) % count
    if turn.isValidChar then
      readFrom? bound (adapt number count (place = 0)) turn (spot + 1)
        (text.take spot ++ Char.ofNat turn :: text.drop spot) cs
    else none

/-- The text that basic characters stand for. -/
def decode? (cs : List Char) : Option (List Char) :=
  let digits := (cs.reverse.takeWhile (· ≠ '-')).reverse
  readFrom? cs.length 72 0x80 0 (cs.take (cs.length - digits.length - 1)) digits

end Punycode

end Stencil
