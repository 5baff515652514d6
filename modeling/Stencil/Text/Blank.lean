/-!
# Blank Characters

Whitespace and line ends, as text is trimmed here: the ASCII controls from
tab to carriage return, the space, the byte order mark, the line and
paragraph separators, and the space separators of Unicode.

## Main definitions

* `isBlank`: Whether a character is whitespace.
* `trim`: A text without the whitespace at its ends.
-/

namespace Stencil

/-- Whether a character is whitespace or ends a line. -/
def isBlank (c : Char) : Bool :=
  let n := c.val.toNat
  (9 ≤ n && n ≤ 13) || n == 0x20 || n == 0xA0 || n == 0x1680
    || (0x2000 ≤ n && n ≤ 0x200A) || n == 0x2028 || n == 0x2029 || n == 0x202F
    || n == 0x205F || n == 0x3000 || n == 0xFEFF

/-- The characters without the whitespace in front of them. -/
def trimStart (cs : List Char) : List Char :=
  cs.dropWhile isBlank

/-- The characters without the whitespace after them. -/
def trimEnd (cs : List Char) : List Char :=
  (trimStart cs.reverse).reverse

/-- The characters without the whitespace at either end. -/
def trim (cs : List Char) : List Char :=
  trimEnd (trimStart cs)

end Stencil
