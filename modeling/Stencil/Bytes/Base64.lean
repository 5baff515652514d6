/-!
# Base64

Octets as text in the standard alphabet: three octets are four digits of six
bits, and a last group of one or two octets is padded to four characters.

## Main definitions

* `Base64.digit`: The character of a digit.
* `Base64.encode`: The text of octets.
-/

namespace Stencil

namespace Base64

/-- The digits in order. -/
def alphabet : List Char :=
  "ABCDEFGHIJKLMNOPQRSTUVWXYZabcdefghijklmnopqrstuvwxyz0123456789+/".toList

/-- The character of a digit below 64. -/
def digit (n : Nat) : Char :=
  alphabet.getD n 'A'

/-- The text of octets. -/
def encode : List UInt8 → List Char
  | [] => []
  | [a] =>
    let n := a.toNat * 16
    [digit (n / 64), digit (n % 64), '=', '=']
  | [a, b] =>
    let n := (a.toNat * 256 + b.toNat) * 4
    [digit (n / 4096), digit (n / 64 % 64), digit (n % 64), '=']
  | a :: b :: c :: rest =>
    let n := a.toNat * 65536 + b.toNat * 256 + c.toNat
    digit (n / 262144) :: digit (n / 4096 % 64) :: digit (n / 64 % 64) :: digit (n % 64)
      :: encode rest

end Base64

end Stencil
