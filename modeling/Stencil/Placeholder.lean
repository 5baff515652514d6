import Stencil.Text.Units

/-!
# Placeholders

Where the placeholders of a template source are.

A placeholder is an identifier between `$` followed by an opening brace, and
a closing brace. Braces anywhere else are literal text, and so is a `$` that
no opening brace follows, so documents full of braces can be templates as
they are. Inside a placeholder nothing but the identifier may stand: reading
goes on to the first brace of either kind, and what was found there decides
what is wrong.

Positions count code units.

## Main definitions

* `isName`: Whether text is an identifier.
* `Occurrence`: One placeholder in a source.
* `Outline`: All placeholders of a source.
* `Outline.ofSource?`: The outline of a source, or its first fault.
-/

namespace Stencil

/-- Whether a character may start an identifier. -/
def isNameStart (c : Char) : Bool :=
  c == '_' || ('a' ≤ c && c ≤ 'z') || ('A' ≤ c && c ≤ 'Z')

/-- Whether a character may continue an identifier. -/
def isNameRest (c : Char) : Bool :=
  isNameStart c || ('0' ≤ c && c ≤ '9')

/-- Whether text is an identifier: an ASCII letter or an underscore, then
    letters, underscores and digits. -/
def isName : List Char → Bool
  | [] => false
  | c :: cs => isNameStart c && cs.all isNameRest

/-- One placeholder in a source: its name, and the positions before its `$`
    and after its closing brace. -/
structure Occurrence where
  name : String
  start : Int
  stop : Int
deriving DecidableEq

/-- What can be wrong with a placeholder. -/
inductive Malformation where
  /-- The source ends before a brace. -/
  | unclosed
  /-- Another brace opens inside. -/
  | nested
  /-- There is nothing inside. -/
  | emptyName
  /-- What stands inside is no identifier. -/
  | invalidName
deriving DecidableEq

/-- A malformed placeholder: what is wrong, the offending text from its `$`
    on, and the position of that `$`. -/
structure Malformed where
  reason : Malformation
  fragment : String
  position : Int
deriving DecidableEq

/-- Whether a character is neither brace. -/
def notBrace (c : Char) : Bool :=
  c != '{' && c != '}'

theorem length_dropWhile_le (p : Char → Bool) (cs : List Char) :
    (cs.dropWhile p).length ≤ cs.length :=
  (List.dropWhile_suffix p).length_le

/-- The occurrences in the part of a source that starts at a position outside
    any placeholder. -/
def scan (position : Nat) : List Char → Except Malformed (List Occurrence)
  | [] => .ok []
  | '$' :: '{' :: rest =>
    let body := rest.takeWhile notBrace
    let fault (reason : Malformation) (text : List Char) : Except Malformed (List Occurrence) :=
      .error ⟨reason, String.ofList ('$' :: '{' :: text), position⟩
    match _h : rest.dropWhile notBrace with
    | [] => fault .unclosed rest
    | brace :: tail =>
      if brace = '{' then fault .nested (body ++ ['{'])
      else if body = [] then fault .emptyName ['}']
      else if isName body = false then fault .invalidName (body ++ ['}'])
      else
        let stop := position + 3 + units body
        match scan stop tail with
        | .error e => .error e
        | .ok more => .ok (⟨String.ofList body, position, stop⟩ :: more)
  | c :: rest => scan (position + unitsOf c) rest
termination_by cs => cs.length
decreasing_by
  · have := length_dropWhile_le notBrace rest
    simp_all only [List.length_cons]
    omega
  · simp only [List.length_cons]
    omega

/-- The placeholders of a source: the distinct names in order of first
    occurrence, and all occurrences in order. -/
structure Outline where
  placeholders : List String
  occurrences : List Occurrence
deriving DecidableEq

namespace Outline

/-- The outline that occurrences make up. -/
def ofOccurrences (occurrences : List Occurrence) : Outline :=
  ⟨(occurrences.map Occurrence.name).eraseDups, occurrences⟩

/-- The outline of a source, or the first malformed placeholder in it. -/
def ofSource? (source : String) : Except Malformed Outline :=
  match scan 0 source.toList with
  | .error e => .error e
  | .ok occurrences => .ok (ofOccurrences occurrences)

end Outline

end Stencil
