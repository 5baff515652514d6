import Stencil.Link
import Stencil.Link.Escape

/-!
# Parameters

A query as a list of names with values.

Parameters are separated by ampersands, and an equals sign stands between a
name and its value. In both of them a plus sign stands for a space and other
characters can be escaped.

## Main definitions

* `Parameters.ofQuery`, `Parameters.query`: Reading a query and writing it.
* `Parameters.set`: Let a name have one value.
-/

namespace Stencil

/-- The parameters of a query, in order. -/
abbrev Parameters := List (String × String)

namespace Parameters

/-- A name or a value as it is meant. -/
def readPart (cs : List Char) : String :=
  String.ofList (Escape.read (cs.map fun c => if c == '+' then ' ' else c))

/-- A name or a value as it is written. -/
def writePart (text : String) : List Char :=
  text.toList.flatMap fun c =>
    if c == ' ' then ['+'] else Escape.write Escape.inParameter [c]

/-- The parameters that a query without its question mark consists of. -/
def ofQuery (query : List Char) : Parameters :=
  ((Link.pieces (· == '&') query).filter (· ≠ [])).map fun piece =>
    (readPart (piece.takeWhile (· != '=')), readPart ((piece.dropWhile (· != '=')).drop 1))

/-- The query that parameters make up. -/
def query (parameters : Parameters) : List Char :=
  ['&'].intercalate (parameters.map fun (name, value) =>
    writePart name ++ '=' :: writePart value)

/-- Let a name have one value. It takes the place of the first one that there
    was. -/
def set (name value : String) : Parameters → Parameters
  | [] => [(name, value)]
  | (known, old) :: more =>
    if known = name then (name, value) :: more.filter fun (other, _) => other ≠ name
    else (known, old) :: set name value more

end Parameters

end Stencil
