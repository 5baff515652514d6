/-!
# Patterns

The parts of a search pattern in the form in which a pattern is written
between slashes. Nothing in the body may end it early: a slash outside a
character class and every line break are escaped, unless they are already,
and an empty body is written as an empty group. The flags have a fixed order.

## Main definitions

* `Pattern`: The body and the flags of a pattern.
* `Pattern.ofParts`: The pattern with a given body and flags.
-/

namespace Stencil

/-- The body and the flags of a pattern. -/
structure Pattern where
  source : String
  flags : String
deriving DecidableEq

namespace Pattern

/-- How a line break is written behind a backslash. -/
def lineBreak? (c : Char) : Option (List Char) :=
  if c = '\n' then some ['n']
  else if c = '\r' then some ['r']
  else if c = '\u2028' then some "u2028".toList
  else if c = '\u2029' then some "u2029".toList
  else none

/-- The rest of a body with what would end it escaped, given whether the
    character before was a backslash that escapes and whether a character
    class is open. -/
def escapeFrom (escaped inClass : Bool) : List Char → List Char
  | [] => []
  | c :: cs =>
    let shown := match lineBreak? c with
      | some name => if escaped then name else '\\' :: name
      | none => if c = '/' && !escaped && !inClass then ['\\', '/'] else [c]
    let opened := if escaped then inClass else if inClass then c != ']' else c == '['
    shown ++ escapeFrom (c == '\\' && !escaped) opened cs

/-- All flags in their order. -/
def allFlags : List Char :=
  "dgimsuvy".toList

/-- The pattern with a given body and flags. -/
def ofParts (source flags : String) : Pattern where
  source := if source = "" then "(?:)" else String.ofList (escapeFrom false false source.toList)
  flags := String.ofList (allFlags.filter flags.toList.contains)

end Pattern

end Stencil
