import Stencil.Number
import Stencil.Text.Blank

/-!
# Reading Numbers

The number that a text stands for. Whitespace around it is ignored and
nothing at all is zero; otherwise the text is a signed decimal with an
optional fraction and exponent, a signed `Infinity`, or an unsigned integer
in base 2, 8 or 16 behind `0b`, `0o` or `0x`. Any other text is not a
number.

Integers of any size are read by the same rules, without fraction, exponent
and infinity.

## Main definitions

* `Number.ofScientific`: The double nearest to a decimal.
* `Number.read`: The number that a text stands for.
* `readInteger?`: The integer that a text stands for.
-/

namespace Stencil

namespace Number

/-- The double nearest to `digits * 10 ^ exponent`. Powers far beyond the
    range of doubles are settled without computing them. -/
def ofScientific (negative : Bool) (digits : Nat) (exponent : Int) : Number :=
  if digits = 0 then finite negative 0 0
  else if 400 < exponent then infinite negative
  else if exponent + digits.log2 < -1200 then finite negative 0 0
  else nearest negative (digits * tenTo exponent.toNat) (tenTo (-exponent).toNat)

/-- The value of a hexadecimal digit. -/
def digitValue? (c : Char) : Option Nat :=
  if c.isDigit then some (c.toNat - '0'.toNat)
  else if 'a' ≤ c ∧ c ≤ 'f' then some (c.toNat - 'a'.toNat + 10)
  else if 'A' ≤ c ∧ c ≤ 'F' then some (c.toNat - 'A'.toNat + 10)
  else none

/-- The natural number that digits of a base stand for, continuing from what
    was read before them. -/
def readDigits? (base : Nat) : Nat → List Char → Option Nat
  | n, [] => some n
  | n, c :: cs =>
    match digitValue? c with
    | some d => if d < base then readDigits? base (base * n + d) cs else none
    | none => none

/-- A signed integer, for an exponent. -/
def readExponent? (cs : List Char) : Option Int :=
  match cs with
  | '-' :: (c :: more) => (readDigits? 10 0 (c :: more)).map (fun n => -(n : Int))
  | '+' :: (c :: more) => (readDigits? 10 0 (c :: more)).map Int.ofNat
  | c :: more => (readDigits? 10 0 (c :: more)).map Int.ofNat
  | [] => none

/-- An unsigned decimal: digits, a fraction, an exponent, with at least one
    digit before the exponent. -/
def readDecimal (negative : Bool) (cs : List Char) : Number :=
  let (whole, rest) := cs.span Char.isDigit
  let (fraction, rest) := match rest with
    | '.' :: more => more.span Char.isDigit
    | _ => ([], rest)
  if whole.isEmpty && fraction.isEmpty then nan
  else
    let exponent? := match rest with
      | [] => some 0
      | c :: more => if c = 'e' ∨ c = 'E' then readExponent? more else none
    match readDigits? 10 0 (whole ++ fraction), exponent? with
    | some digits, some exponent => ofScientific negative digits (exponent - fraction.length)
    | _, _ => nan

/-- What may follow a sign. -/
def readUnsigned (negative : Bool) (cs : List Char) : Number :=
  if cs = "Infinity".toList then infinite negative else readDecimal negative cs

/-- An unsigned integer of a base, with at least one digit. -/
def readBase (base : Nat) (cs : List Char) : Number :=
  match cs with
  | [] => nan
  | cs => match readDigits? base 0 cs with
    | some n => nearest false n 1
    | none => nan

/-- The number that a text stands for. -/
def read (text : String) : Number :=
  match trim text.toList with
  | [] => finite false 0 0
  | '-' :: cs => readUnsigned true cs
  | '+' :: cs => readUnsigned false cs
  | '0' :: 'x' :: cs | '0' :: 'X' :: cs => readBase 16 cs
  | '0' :: 'o' :: cs | '0' :: 'O' :: cs => readBase 8 cs
  | '0' :: 'b' :: cs | '0' :: 'B' :: cs => readBase 2 cs
  | cs => readUnsigned false cs

end Number

/-- The natural number that at least one digit of a base stands for. -/
def readNatural? (base : Nat) : List Char → Option Nat
  | [] => none
  | c :: cs => Number.readDigits? base 0 (c :: cs)

/-- The integer that a text stands for. -/
def readInteger? (text : String) : Option Int :=
  let natural (base : Nat) (cs : List Char) : Option Int := (readNatural? base cs).map Int.ofNat
  match trim text.toList with
  | [] => some 0
  | '-' :: cs => (readNatural? 10 cs).map fun n => -(n : Int)
  | '+' :: cs => natural 10 cs
  | '0' :: 'x' :: cs | '0' :: 'X' :: cs => natural 16 cs
  | '0' :: 'o' :: cs | '0' :: 'O' :: cs => natural 8 cs
  | '0' :: 'b' :: cs | '0' :: 'B' :: cs => natural 2 cs
  | cs => natural 10 cs

end Stencil
