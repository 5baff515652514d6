import Stencil.Text.Blank

/-!
# Margins

Removing the indentation that all lines of a text share.

The margin is the longest run of spaces and tabs that starts every line with
something on it. Lines of whitespace have no say in it, since editors leave
such lines in any state, and of those the ones made of spaces and tabs alone
become empty. Lines end at a line feed; a carriage return before it belongs
to the line.

## Main definitions

* `lines`: The lines of a text.
* `margin`: The indentation shared by all lines that are not blank.
* `dedent`: A text without its margin and without whitespace at its ends.
-/

namespace Stencil

/-- The lines of a text; there is always at least one. -/
def lines : List Char → List (List Char)
  | [] => [[]]
  | c :: cs =>
    if c = '\n' then [] :: lines cs
    else
      match lines cs with
      | [] => [[c]]
      | line :: more => (c :: line) :: more

/-- Lines joined by line feeds. -/
def unlines (ls : List (List Char)) : List Char :=
  ['\n'].intercalate ls

/-- Whether a line is made of whitespace alone. -/
def isBlankLine (line : List Char) : Bool :=
  line.all isBlank

/-- Whether a character indents. -/
def isIndent (c : Char) : Bool :=
  c == ' ' || c == '\t'

/-- The spaces and tabs that a line starts with. -/
def indent (line : List Char) : List Char :=
  line.takeWhile isIndent

/-- The longest text that both texts start with. -/
def commonPrefix : List Char → List Char → List Char
  | a :: as, b :: bs => if a = b then a :: commonPrefix as bs else []
  | _, _ => []

/-- The indentation shared by all lines that are not blank, none if there are
    no such lines. -/
def margin (ls : List (List Char)) : List Char :=
  match (ls.filter fun line => !isBlankLine line).map indent with
  | [] => []
  | first :: more => more.foldl commonPrefix first

/-- A line without a margin of the given length. A blank line of spaces and
    tabs becomes empty, any other blank line stays. -/
def stripLine (width : Nat) (line : List Char) : List Char :=
  if isBlankLine line then
    if line.all isIndent then [] else line
  else line.drop width

/-- A text without its margin and without whitespace at its ends, on
    characters. -/
def dedentChars (cs : List Char) : List Char :=
  let ls := lines cs
  trim (unlines (ls.map (stripLine (margin ls).length)))

/-- A text without its margin and without whitespace at its ends. -/
def dedent (text : String) : String :=
  String.ofList (dedentChars text.toList)

end Stencil
