import Stencil.Bytes.Lossy

/-!
# Escapes in Links

Characters that a part of a link cannot contain are written as escapes: a
percent sign and two hexadecimal digits for each octet of the character.

Which characters those are depends on the part. The sets grow from the fragment
to the user information: what has to be escaped in a path has to be escaped in
a name of a user as well. Controls and everything outside ASCII are escaped in
all of them.

## Main definitions

* `Escape.inFragment`, `Escape.inQuery`, `Escape.inPath`, `Escape.inUser`,
  `Escape.inParameter`: The characters that are escaped in a part.
* `Escape.write`, `Escape.read`: Text with escapes, and without them.
-/

namespace Stencil

namespace Escape

/-- Controls, and characters outside ASCII. -/
def always (c : Char) : Bool :=
  c.toNat ≤ 0x1F || 0x7E < c.toNat

/-- What is escaped in a fragment. -/
def inFragment (c : Char) : Bool :=
  always c || [' ', '"', '<', '>', '`'].contains c

/-- What is escaped in a query. Some schemes keep the single quote to
    themselves. -/
def inQuery (isSpecial : Bool) (c : Char) : Bool :=
  always c || [' ', '"', '#', '<', '>'].contains c || (isSpecial && c == '\'')

/-- What is escaped in a path. -/
def inPath (c : Char) : Bool :=
  inQuery false c || ['?', '`', '{', '}'].contains c

/-- What is escaped in the name or the password of a user. -/
def inUser (c : Char) : Bool :=
  inPath c || ['/', ':', ';', '=', '@', '[', '\\', ']', '^', '|'].contains c

/-- What is escaped in a parameter of a query, apart from the space. -/
def inParameter (c : Char) : Bool :=
  !(c.isAlphanum || ['*', '-', '.', '_'].contains c)

/-- A hexadecimal digit. -/
def hexDigit (n : Nat) : Char :=
  if n < 10 then Char.ofNat ('0'.toNat + n) else Char.ofNat ('A'.toNat + n - 10)

/-- The escape of an octet. -/
def ofOctet (b : UInt8) : List Char :=
  ['%', hexDigit (b.toNat / 16), hexDigit (b.toNat % 16)]

/-- The octets of a character. -/
def octetsOf (c : Char) : List UInt8 :=
  (String.singleton c).toUTF8.toList

/-- A text with the characters of a kind escaped. -/
def write (isEscaped : Char → Bool) (cs : List Char) : List Char :=
  cs.flatMap fun c => if isEscaped c then (octetsOf c).flatMap ofOctet else [c]

/-- The value of a hexadecimal digit. -/
def hexValue? (c : Char) : Option Nat :=
  if c.isDigit then some (c.toNat - '0'.toNat)
  else if 'a' ≤ c && c ≤ 'f' then some (c.toNat - 'a'.toNat + 10)
  else if 'A' ≤ c && c ≤ 'F' then some (c.toNat - 'A'.toNat + 10)
  else none

/-- The octets that a text with escapes stands for. A percent sign without two
    digits stands for itself. -/
def octets : List Char → List UInt8
  | [] => []
  | '%' :: high :: low :: more =>
    match hexValue? high, hexValue? low with
    | some h, some l => UInt8.ofNat (16 * h + l) :: octets more
    | _, _ => octetsOf '%' ++ octets (high :: low :: more)
  | c :: more => octetsOf c ++ octets more

/-- The text that a text with escapes stands for. -/
def read (cs : List Char) : List Char :=
  Utf8.readLossy (octets cs)

end Escape

end Stencil
