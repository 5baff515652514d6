import Stencil.Pattern.Flaw
import Stencil.Pattern.Property

/-!
# Escapes in Patterns

What stands behind a backslash in the body of a pattern.

An escape is a character, given by a letter, by its number, or by itself. How
much may be given by itself depends on the mode: where the grammar is loose,
everything that has no other meaning; where it is strict, only what would have
a meaning without the backslash. The loose grammar reads numbers in the base
eight, too.

A reader takes the characters that are left and gives those that are left
after it, or what is wrong.

## Main definitions

* `Pattern.Mode`, `Pattern.Survey`: What the grammar depends on.
* `Pattern.escape`: The character behind a backslash.
* `Pattern.property`: The property behind a backslash and a `p`.
-/

namespace Stencil

namespace Pattern

/-- How a body is read. -/
inductive Mode where
  /-- What makes no sense as syntax stands for itself. -/
  | loose
  /-- What makes no sense as syntax is wrong. -/
  | strict
  /-- Strict, and a class is made by operations on sets of texts. -/
  | sets
deriving DecidableEq

/-- What the grammar depends on: the mode, how many groups are captured, and
    whether one of them has a name. -/
structure Survey where
  mode : Mode
  captures : Nat
  named : Bool

/-- Whether the grammar is strict. -/
def Survey.strict (s : Survey) : Bool :=
  s.mode ≠ .loose

/-- The digit in some base that a character is. -/
def digit? (base : Nat) (c : Char) : Option Nat :=
  let n :=
    if c.isDigit then c.toNat - '0'.toNat
    else if 'a' ≤ c ∧ c ≤ 'f' then c.toNat - 'a'.toNat + 10
    else if 'A' ≤ c ∧ c ≤ 'F' then c.toNat - 'A'.toNat + 10
    else base
  if n < base then some n else none

/-- The value of digits. -/
def valueOf (base : Nat) (cs : List Char) : Nat :=
  cs.foldl (fun n c => base * n + (digit? base c).getD 0) 0

/-- The value of exactly so many hexadecimal digits. -/
def hex? (width : Nat) (cs : List Char) : Option (Nat × List Char) :=
  let digits := cs.take width
  if digits.length = width && digits.all fun c => (digit? 16 c).isSome then
    some (valueOf 16 digits, cs.drop width)
  else none

/-- The character that hexadecimal digits behind `u` stand for. Those of more
    than four digits are in braces, with the strict grammar only. -/
def unicode? (strict : Bool) (cs : List Char) : Option (Nat × List Char) :=
  match cs with
  | '{' :: rest =>
    let digits := rest.takeWhile (· ≠ '}')
    if strict && digits ≠ [] && (digits.all fun c => (digit? 16 c).isSome)
        && valueOf 16 digits < 0x110000 && digits.length < rest.length then
      some (valueOf 16 digits, rest.drop (digits.length + 1))
    else none
  | cs => do
    let (high, rest) ← hex? 4 cs
    match rest with
    | '\\' :: 'u' :: more =>
      match hex? 4 more with
      | some (low, after) =>
        if strict && 0xD800 ≤ high && high < 0xDC00 && 0xDC00 ≤ low && low < 0xE000 then
          return (0x10000 + (high - 0xD800) * 0x400 + (low - 0xDC00), after)
        else return (high, rest)
      | none => return (high, rest)
    | _ => return (high, rest)

/-- The number in the base eight, of up to three digits, at the front. -/
def octal (cs : List Char) : Nat × List Char :=
  let digits := (cs.takeWhile fun c => (digit? 8 c).isSome).take 3
  let digits := if valueOf 8 digits < 256 then digits else digits.take 2
  (valueOf 8 digits, cs.drop digits.length)

/-- The characters that have a meaning in the grammar. -/
def syntaxChars : List Char :=
  "^$\\.*+?()[]\x7b\x7d|/".toList

/-- The characters that are kept for operations on sets. -/
def reservedChars : List Char :=
  "&-!#%,:;<=>@`~".toList

/-- Whether the strict grammar lets a character be escaped by itself. -/
def mayEscape (mode : Mode) (inClass : Bool) (c : Char) : Bool :=
  syntaxChars.contains c || (inClass && c = '-')
    || (inClass && mode = .sets && reservedChars.contains c)

/-- The character that is written behind a backslash, whatever is not a class
    or a reference. -/
def escape (s : Survey) (inClass : Bool) : List Char → Except Flaw (Nat × List Char)
  | [] => .error .openEscape
  | c :: cs =>
    if c = 'f' then .ok (0x0C, cs)
    else if c = 'n' then .ok (0x0A, cs)
    else if c = 'r' then .ok (0x0D, cs)
    else if c = 't' then .ok (0x09, cs)
    else if c = 'v' then .ok (0x0B, cs)
    else if c = 'c' then
      match cs with
      | letter :: rest =>
        if letter.isAlpha then .ok (letter.toNat % 32, rest)
        else if s.strict then .error .wrongUnicodeEscape
        else if inClass && (letter.isDigit || letter = '_') then .ok (letter.toNat % 32, rest)
        else .ok ('\\'.toNat, c :: cs)
      | [] => if s.strict then .error .wrongUnicodeEscape else .ok ('\\'.toNat, c :: cs)
    else if c = '0' && !(cs.headD ' ').isDigit then .ok (0, cs)
    else if '0' ≤ c ∧ c ≤ '7' then
      if s.strict then .error (if inClass then .wrongClassEscape else .wrongDecimalEscape)
      else .ok (octal (c :: cs))
    else if c = 'x' then
      match hex? 2 cs with
      | some found => .ok found
      | none => if s.strict then .error .wrongEscape else .ok (c.toNat, cs)
    else if c = 'u' then
      match unicode? s.strict cs with
      | some found => .ok found
      | none => if s.strict then .error .wrongUnicodeEscape else .ok (c.toNat, cs)
    else if s.strict then
      if mayEscape s.mode inClass c then .ok (c.toNat, cs) else .error .wrongEscape
    else if c = 'k' && s.named then .error .wrongEscape
    else .ok (c.toNat, cs)

/-- The property that is named behind a backslash and a `p`, or a capital one
    for what lacks the property. Whether it is one of texts, which nothing can
    be said to lack. -/
def property (s : Survey) (inClass lacking : Bool) (cs : List Char) :
    Except Flaw (Bool × List Char) :=
  let unknown : Flaw := if inClass then .unknownClassProperty else .unknownProperty
  match Property.read? cs with
  | some (p, rest) =>
    if p.isKnown then .ok (false, rest)
    else if s.mode = .sets && p.isOfTexts && !lacking then .ok (true, rest)
    else .error unknown
  | none => .error unknown

end Pattern

end Stencil
