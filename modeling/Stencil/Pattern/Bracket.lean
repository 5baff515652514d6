import Stencil.Pattern.Escape
import Stencil.Text.Units

/-!
# Brackets in Patterns

A class of characters that is listed between brackets: characters, ranges of
characters, and classes by their names.

Where the grammar is loose, the elements of a bracket are code units, so that a
character of two halves counts as two elements. A range can thus begin at the
second half of one character and end at the first half of another.

## Main definitions

* `Pattern.Remainder`: What is left of a bracket.
* `Pattern.element`: An element of a bracket.
* `Pattern.bracket`: The elements up to the closing bracket.
-/

namespace Stencil

namespace Pattern

/-- What is left of a bracket: perhaps the second half of a character, and the
    characters behind it. -/
structure Remainder where
  half : Option Nat := none
  chars : List Char

/-- The characters that name a class behind a backslash. -/
def classLetters : List Char :=
  "dDsSwW".toList

/-- A character as an element. In the loose grammar that is its first half. -/
def literal (s : Survey) (c : Char) (cs : List Char) : Nat × Remainder :=
  match s.mode, halves c with
  | .loose, [high, low] => (high, { half := some low, chars := cs })
  | _, _ => (c.toNat, { chars := cs })

/-- An element of a bracket: a character, or a class of characters. -/
def element (s : Survey) (r : Remainder) : Except Flaw (Option Nat × Remainder) :=
  match r.half, r.chars with
  | some low, cs => .ok (some low, { chars := cs })
  | none, '\\' :: c :: cs =>
    if c = 'b' then .ok (some 0x08, { chars := cs })
    else if classLetters.contains c then .ok (none, { chars := cs })
    else if (c = 'p' || c = 'P') && s.strict then do
      let (_, rest) ← property s true (c = 'P') cs
      return (none, { chars := rest })
    else if 0x10000 ≤ c.toNat && !s.strict then
      let (n, rest) := literal s c cs
      .ok (some n, rest)
    else do
      let (n, rest) ← escape s true (c :: cs)
      return (some n, { chars := rest })
  | none, ['\\'] => .error .openEscape
  | none, c :: cs =>
    let (n, rest) := literal s c cs
    .ok (some n, rest)
  | none, [] => .error .openClass

/-- What follows the elements of a bracket, which are at most so many. -/
def bracket (s : Survey) : Nat → Remainder → Except Flaw (List Char)
  | 0, _ => .error .openClass
  | bound + 1, r =>
    match r with
    | ⟨none, []⟩ => .error .openClass
    | ⟨none, ']' :: cs⟩ => .ok cs
    | r => do
      let (low, r) ← element s r
      match r with
      | ⟨none, ['-']⟩ => throw .openClass
      | ⟨none, '-' :: ']' :: cs⟩ => return cs
      | ⟨none, '-' :: cs⟩ =>
        let (high, r) ← element s { chars := cs }
        match low, high with
        | some low, some high => if high < low then throw .rangeOrder else bracket s bound r
        | _, _ => if s.strict then throw .wrongClass else bracket s bound r
      | r => bracket s bound r

end Pattern

end Stencil
