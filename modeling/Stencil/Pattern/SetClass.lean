import Stencil.Pattern.Bracket

/-!
# Sets in Patterns

A class between brackets that is made by operations on sets.

The operands are characters, classes by their names, lists of texts, and classes
in brackets of their own. Written one after the other they are united, and only
then can there be ranges. With two dashes between all of them the others are
taken out of the first, and with two ampersands what is common to all of them is
left. Operations do not mix.

A set can contain texts that are no single characters. The complement of such a
set makes no sense.

## Main definitions

* `Pattern.Operand`: An operand.
* `Pattern.setClass`: A class up to the closing bracket.
-/

namespace Stencil

namespace Pattern

/-- An operand: a character, or a set, which can contain other texts than
    characters. -/
inductive Operand where
  | char (n : Nat)
  | set (hasTexts : Bool)
deriving DecidableEq

/-- Whether an operand can contain other texts than characters. -/
def Operand.hasTexts : Operand → Bool
  | .char _ => false
  | .set texts => texts

/-- The characters that have a meaning in a class. -/
def classChars : List Char :=
  "()[]\x7b\x7d/-\\|".toList

/-- The characters that have a meaning if they are written twice. -/
def doubledChars : List Char :=
  "&!#$%*+,.:;<=>?@^`~".toList

/-- A character of a class. -/
def setChar (s : Survey) : List Char → Except Flaw (Nat × List Char)
  | [] => .error .openClass
  | '\\' :: 'b' :: cs => .ok (0x08, cs)
  | '\\' :: cs => escape s true cs
  | c :: cs =>
    if classChars.contains c then .error .bareInClass
    else if doubledChars.contains c && cs.head? = some c then .error .wrongOperation
    else .ok (c.toNat, cs)

/-- Whether a list of texts between bars contains one that is no single
    character, given how many characters of the current one have been read. The
    list has at most so many parts and ends with a brace. -/
def textList (s : Survey) : Nat → Nat → List Char → Except Flaw (Bool × List Char)
  | 0, _, _ | _, _, [] => .error .openClass
  | _, length, '}' :: cs => .ok (length != 1, cs)
  | bound + 1, length, '|' :: cs => do
    let (more, rest) ← textList s bound 0 cs
    return (length != 1 || more, rest)
  | bound + 1, length, cs => do
    let (_, rest) ← setChar s cs
    textList s bound (length + 1) rest

/-- An operand, given how a class behind its opening bracket is read. -/
def operand (s : Survey) (inner : List Char → Except Flaw (Bool × List Char)) (cs : List Char) :
    Except Flaw (Operand × List Char) := do
  let single : Except Flaw (Operand × List Char) := do
    let (n, rest) ← setChar s cs
    return (.char n, rest)
  match cs with
  | '\\' :: c :: rest =>
    if c = 'q' then
      match rest with
      | '{' :: rest =>
        let (texts, rest) ← textList s (rest.length + 1) 0 rest
        return (.set texts, rest)
      | _ => throw .wrongEscape
    else if classLetters.contains c then return (.set false, rest)
    else if c = 'p' || c = 'P' then
      let (texts, rest) ← property s true (c = 'P') rest
      return (.set texts, rest)
    else single
  | '[' :: rest =>
    let (texts, rest) ← inner rest
    return (.set texts, rest)
  | _ => single

/-- Whether the union of operands can contain other texts than characters, given
    whether those read so far can, and the last of them if it is a character, at
    which a range can begin. -/
def union (next : List Char → Except Flaw (Operand × List Char)) :
    Nat → Bool → Option Nat → List Char → Except Flaw (Bool × List Char)
  | 0, _, _, _ | _, _, _, [] => .error .openClass
  | _, texts, _, ']' :: cs => .ok (texts, cs)
  | _, _, _, '-' :: '-' :: _ => .error .wrongOperation
  | _, _, none, '-' :: _ => .error .wrongClass
  | bound + 1, texts, some low, '-' :: cs => do
    match ← next cs with
    | (.char high, rest) =>
      if high < low then throw .rangeOrder else union next bound texts none rest
    | (.set _, _) => throw .wrongClass
  | bound + 1, texts, _, cs => do
    match ← next cs with
    | (.char n, rest) => union next bound texts (some n) rest
    | (.set more, rest) => union next bound (texts || more) none rest

/-- Whether what is common to operands can contain other texts than characters,
    given whether that is so for those read so far. -/
def intersection (next : List Char → Except Flaw (Operand × List Char)) :
    Nat → Bool → List Char → Except Flaw (Bool × List Char)
  | 0, _, _ | _, _, [] => .error .openClass
  | _, texts, ']' :: cs => .ok (texts, cs)
  | _, _, '&' :: '&' :: '&' :: _ => .error .bareInClass
  | bound + 1, texts, '&' :: '&' :: cs => do
    let (more, rest) ← next cs
    intersection next bound (texts && more.hasTexts) rest
  | _, _, _ => .error .wrongOperation

/-- What follows the operands that are taken out. -/
def difference (next : List Char → Except Flaw (Operand × List Char)) :
    Nat → List Char → Except Flaw (List Char)
  | 0, _ | _, [] => .error .openClass
  | _, ']' :: cs => .ok cs
  | bound + 1, '-' :: '-' :: cs => do
    let (_, rest) ← next cs
    difference next bound rest
  | _, _ => .error .wrongOperation

/-- Whether a class can contain other texts than characters, and what follows
    its closing bracket. The classes in it are nested at most so deep. -/
def setClass (s : Survey) : Nat → List Char → Except Flaw (Bool × List Char)
  | 0, _ => .error .openClass
  | depth + 1, cs => do
    let negated := cs.head? = some '^'
    match if negated then cs.drop 1 else cs with
    | ']' :: rest => return (false, rest)
    | cs =>
      let next := operand s (setClass s depth)
      let bound := cs.length + 1
      let (first, rest) ← next cs
      let (texts, rest) ← match rest with
        | '-' :: '-' :: _ =>
          if negated && first.hasTexts then throw .textsExcluded
          else pure (first.hasTexts, ← difference next bound rest)
        | '&' :: '&' :: _ => intersection next bound first.hasTexts rest
        | rest =>
          match first with
          | .char n => union next bound false (some n) rest
          | .set texts => union next bound texts none rest
      if negated && texts then throw .textsExcluded else return (texts, rest)

end Pattern

end Stencil
