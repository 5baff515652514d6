import Stencil.Link.Parameters
import Stencil.Link.Reading

/-!
# Changing Links

Links with one of their parts exchanged.

A part is given as a text, and what the part cannot contain is escaped. Where
the text makes no sense as the part, the link stays as it is.

## Main definitions

* `Link.change`: A link with a part exchanged.
* `Link.setParameter`: A link with a parameter of its query set.
-/

namespace Stencil

namespace Link

/-- A text without a mark in front. -/
def unmarked (mark : Char) (cs : List Char) : List Char :=
  if cs.head? = some mark then cs.drop 1 else cs

/-- Without the spaces at the end of a path without structure, which only a query
    or a fragment keeps from being the end of the link. -/
def withoutLastSpaces (l : Link) : Link :=
  if l.isOpaque && l.query.isNone && l.fragment.isNone then
    { l with path := (l.path.reverse.dropWhile (· == ' ')).reverse }
  else l

/-- With another fragment. -/
def withFragment (cs : List Char) (l : Link) : Link :=
  if cs = [] then { l with fragment := none }.withoutLastSpaces
  else { l with fragment := some (Escape.write Escape.inFragment (compact (unmarked '#' cs))) }

/-- With another query. -/
def withQuery (cs : List Char) (l : Link) : Link :=
  if cs = [] then { l with query := none }.withoutLastSpaces
  else
    let text := compact (unmarked '?' cs)
    { l with query := some (Escape.write (Escape.inQuery l.isSpecial) text) }

/-- With another name of a user. -/
def withUser (cs : List Char) (l : Link) : Link :=
  if l.hasHost then { l with user := Escape.write Escape.inUser cs } else l

/-- With another password. -/
def withPassword (cs : List Char) (l : Link) : Link :=
  if l.hasHost then { l with password := Escape.write Escape.inUser cs } else l

/-- With another scheme. A special one can only be exchanged for a special one,
    and a scheme for files takes neither user nor port. -/
def withScheme (cs : List Char) (l : Link) : Link :=
  let scheme := (cut (· == ':') (compact cs)).1.map Char.toLower
  let next := { l with scheme := scheme, port := mentioned scheme l.port }
  let isTaken := isScheme scheme && next.isSpecial == l.isSpecial
    && !(next.isFile && (l.user ≠ [] || l.password ≠ [] || l.port ≠ []))
    && !(l.isFile && l.host.getD [] = [])
  if isTaken then next else l

/-- With another port: the digits in front, if they are a number of 16 bits. -/
def withPort (cs : List Char) (l : Link) : Link :=
  let text := compact cs
  let digits := text.takeWhile Char.isDigit
  if !l.hasHost then l
  else if text = [] then { l with port := [] }
  else if digits = [] then l
  else (l.withDigits? digits).getD l

/-- With another host of a file. -/
def withFileHost (cs : List Char) (l : Link) : Link :=
  if cs = [] then { l with host := some [] }
  else
    match fileHost? cs with
    | some host => { l with host := some host }
    | none => l

/-- With another host and the port behind it, if that may be given. A special
    link always has a host, and in the others a host can be nothing where there
    is a place for it. -/
def withHost (portToo : Bool) (cs : List Char) (l : Link) : Link :=
  let text := compact (cut (· == '#') cs).1
  let (host, rest) := Host.span l.isSpecial text
  let hasPort := rest.head? = some ':'
  let next := if hasPort && rest ≠ [':'] then l.withPort (rest.drop 1) else l
  if l.isOpaque then l
  else if l.isFile then
    l.withFileHost (cut (fun c => c == '?' || Host.isSlash true c) text).1
  else if hasPort && !portToo then l
  else if !hasPort && host = [] && (l.isSpecial || l.credentials ≠ [] || l.port ≠ []) then l
  else if host = [] && !l.isSpecial then
    if l.host.isSome || l.isGuarded then { next with host := some [] } else next
  else
    match Host.read? l.isSpecial host with
    | some host => { next with host := some host }
    | none => l

/-- With another path. Only behind a host can a path be nothing. -/
def withPath (cs : List Char) (l : Link) : Link :=
  let text := compact cs
  let k := Path.kindOf l
  if l.isOpaque then l
  else if text = [] && !l.isSpecial && l.host.isSome then { l with path := [] }
  else { l with path := Path.read k (Path.withoutSlash k text) }

/-- A link with a part exchanged for a text. -/
def change (p : LinkPart) (text : String) (l : Link) : Link :=
  let cs := text.toList
  match p with
  | .scheme => l.withScheme cs
  | .user => l.withUser cs
  | .password => l.withPassword cs
  | .host => l.withHost true cs
  | .hostname => l.withHost false cs
  | .port => l.withPort cs
  | .path => l.withPath cs
  | .query => l.withQuery cs
  | .fragment => l.withFragment cs
  | .href | .origin | .parameters => l

/-- The parameters of a link. -/
def parameters (l : Link) : Parameters :=
  Parameters.ofQuery (l.query.getD [])

/-- A link with a parameter of its query set. -/
def setParameter (name value : String) (l : Link) : Link :=
  l.withQuery (l.parameters.set name value).query

end Link

end Stencil
