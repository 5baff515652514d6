/-!
# UTF-8

Octets as text. The first octet of a character tells how many follow it and
in which range the second one lies; the narrow ranges after `E0`, `ED`, `F0`
and `F4` keep out overlong forms, surrogates and code points that do not
exist. Every further octet lies in `80` to `BF`. Octets that break one of
these rules are no text at all, so reading is all or nothing.

## Main definitions

* `Utf8.decode?`: The characters that octets stand for.
* `Utf8.read?`: The same, without a byte order mark at the start.
-/

namespace Stencil

namespace Utf8

/-- Whether an octet continues a character, in the range that the first octet
    allows it. -/
def within (low high : Nat) (b : UInt8) : Bool :=
  low ≤ b.toNat && b.toNat ≤ high

/-- The six bits that a continuing octet carries. -/
def payload (b : UInt8) : Nat :=
  b.toNat % 64

/-- The range of the second octet of a character of three or four. -/
def secondRange (first : Nat) : Nat × Nat :=
  if first = 0xE0 then (0xA0, 0xBF)
  else if first = 0xED then (0x80, 0x9F)
  else if first = 0xF0 then (0x90, 0xBF)
  else if first = 0xF4 then (0x80, 0x8F)
  else (0x80, 0xBF)

/-- The characters that octets stand for. -/
def decode? : List UInt8 → Option (List Char)
  | [] => some []
  | a :: rest =>
    let n := a.toNat
    if n < 0x80 then (decode? rest).map (Char.ofNat n :: ·)
    else if 0xC2 ≤ n ∧ n ≤ 0xDF then
      match rest with
      | b :: rest =>
        if within 0x80 0xBF b then
          (decode? rest).map (Char.ofNat ((n - 0xC0) * 64 + payload b) :: ·)
        else none
      | _ => none
    else if 0xE0 ≤ n ∧ n ≤ 0xEF then
      match rest with
      | b :: c :: rest =>
        if within (secondRange n).1 (secondRange n).2 b && within 0x80 0xBF c then
          (decode? rest).map
            (Char.ofNat ((n - 0xE0) * 4096 + payload b * 64 + payload c) :: ·)
        else none
      | _ => none
    else if 0xF0 ≤ n ∧ n ≤ 0xF4 then
      match rest with
      | b :: c :: d :: rest =>
        if within (secondRange n).1 (secondRange n).2 b && within 0x80 0xBF c
            && within 0x80 0xBF d then
          (decode? rest).map
            (Char.ofNat ((n - 0xF0) * 262144 + payload b * 4096 + payload c * 64 + payload d) :: ·)
        else none
      | _ => none
    else none

/-- The characters that octets stand for; a byte order mark in front of them
    is dropped. -/
def read? : List UInt8 → Option (List Char)
  | 0xEF :: 0xBB :: 0xBF :: rest => decode? rest
  | octets => decode? octets

end Utf8

end Stencil
