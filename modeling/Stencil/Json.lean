import Stencil.Number.Decimal

/-!
# JSON

JSON as a tree, and its compact text.

An object is a list of members, since their order shows in the text. In a
quoted text the quote, the backslash and the control characters are escaped,
and every other character stands for itself. A number that JSON has no text
for, an infinity or what is not a number, is written as `null`.

## Main definitions

* `Json`: A JSON document.
* `Json.print`: Its compact text.
-/

namespace Stencil

/-- A JSON document. -/
inductive Json where
  | null
  | boolean (b : Bool)
  | number (n : Number)
  | text (s : String)
  | array (items : List Json)
  | object (members : List (String × Json))

namespace Json

/-- A hexadecimal digit. -/
def hexDigit (n : Nat) : Char :=
  "0123456789abcdef".toList.getD n '0'

/-- A character inside quotes. -/
def escape (c : Char) : List Char :=
  if c = '"' then ['\\', '"']
  else if c = '\\' then ['\\', '\\']
  else if c.val.toNat < 32 then
    if c.val.toNat = 8 then ['\\', 'b']
    else if c.val.toNat = 9 then ['\\', 't']
    else if c.val.toNat = 10 then ['\\', 'n']
    else if c.val.toNat = 12 then ['\\', 'f']
    else if c.val.toNat = 13 then ['\\', 'r']
    else ['\\', 'u', '0', '0', hexDigit (c.val.toNat / 16), hexDigit (c.val.toNat % 16)]
  else [c]

/-- A text in quotes. -/
def quote (cs : List Char) : List Char :=
  '"' :: cs.flatMap escape ++ ['"']

/-- A number, or `null` for one that JSON cannot write. -/
def printNumber : Number → List Char
  | .finite negative significand exponent =>
    (Number.finite negative significand exponent).text.toList
  | _ => "null".toList

mutual

/-- The compact text of a document. -/
def print : Json → List Char
  | null => "null".toList
  | boolean b => if b then "true".toList else "false".toList
  | number n => printNumber n
  | text s => quote s.toList
  | array items => '[' :: printItems items ++ [']']
  | object members => '{' :: printMembers members ++ ['}']

/-- The items of an array, separated by commas. -/
def printItems : List Json → List Char
  | [] => []
  | [item] => print item
  | item :: next :: more => print item ++ ',' :: printItems (next :: more)

/-- The members of an object, separated by commas. -/
def printMembers : List (String × Json) → List Char
  | [] => []
  | [(name, value)] => quote name.toList ++ ':' :: print value
  | (name, value) :: next :: more =>
    quote name.toList ++ ':' :: print value ++ ',' :: printMembers (next :: more)

end

end Json

end Stencil
