import Stencil.Link.Escape
import Stencil.Link.Host

/-!
# Paths of Links

A path as it is walked, segment by segment.

A segment leads one place further, except that one dot stays and two dots go back.
A path that ends with dots ends at a place, and so with a slash. On the way to a
file the first segment can be a drive, which no step leads back from; a bar in its
name stands for a colon.

## Main definitions

* `Path.walk`: The segments of a path with the dots followed.
* `Path.read`: The path that a text is.
-/

namespace Stencil

namespace Path

/-- What the walk depends on. -/
structure Kind where
  isSpecial : Bool
  isFile : Bool

/-- The kind of the path of a link. -/
def kindOf (l : Link) : Kind :=
  ⟨l.isSpecial, l.isFile⟩

/-- The names of the step to the same place. -/
def isDot (segment : List Char) : Bool :=
  [".", "%2e"].contains (String.ofList (segment.map Char.toLower))

/-- The names of the step back. -/
def isDots (segment : List Char) : Bool :=
  ["..", ".%2e", "%2e.", "%2e%2e"].contains (String.ofList (segment.map Char.toLower))

/-- Whether a segment names a drive, with a colon or with a bar. -/
def isDrive (segment : List Char) : Bool :=
  match segment with
  | [letter, mark] => letter.isAlpha && (mark == ':' || mark == '|')
  | _ => false

/-- Whether a segment starts with the name of a drive. -/
def startsWithDrive (segment : List Char) : Bool :=
  match segment with
  | letter :: ':' :: _ => letter.isAlpha
  | _ => false

/-- A segment behind others, with the name of a drive in normal form. -/
def named (k : Kind) (before : List (List Char)) (segment : List Char) : List Char :=
  if k.isFile && before.isEmpty && isDrive segment then segment.take 1 ++ [':'] else segment

/-- The segments without the last, if there is one that can be left. -/
def back? (k : Kind) (before : List (List Char)) : Option (List (List Char)) :=
  match before with
  | [] => none
  | [only] => if k.isFile && startsWithDrive only then none else some []
  | before => some before.dropLast

/-- The segments of a path, behind those that there are. Two dots at the end of a
    path that has no place to go back to end no path but that of a special
    link. -/
def walk (k : Kind) : List (List Char) → List (List Char) → List (List Char)
  | before, [] => before
  | before, segment :: more =>
    if isDots segment then
      let left := back? k before
      let before := left.getD before
      walk k (if more.isEmpty && (left.isSome || k.isSpecial) then before ++ [[]] else before) more
    else if isDot segment then walk k (if more.isEmpty then before ++ [[]] else before) more
    else walk k (before ++ [named k before segment]) more

/-- The path of segments. -/
def ofSegments (segments : List (List Char)) : List Char :=
  segments.flatMap fun segment => '/' :: segment

/-- The path that a text behind its first slash is. -/
def read (k : Kind) (cs : List Char) : List Char :=
  let segments := Link.pieces (Host.isSlash k.isSpecial) cs
  ofSegments (walk k [] (segments.map (Escape.write Escape.inPath)))

/-- A text without a slash in front. -/
def withoutSlash (k : Kind) (cs : List Char) : List Char :=
  match cs with
  | c :: rest => if Host.isSlash k.isSpecial c then rest else cs
  | [] => []

end Path

end Stencil
