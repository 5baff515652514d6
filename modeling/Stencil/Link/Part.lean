import Stencil.Link.Reading

/-!
# Parts of Links

What a link gives for each of its parts.

What separates a part from the one before belongs to the query and to the
fragment, unless nothing follows it, and the colon belongs to the scheme. The
origin of a link is where its content comes from; one that leads to a piece of
data in memory has the origin of the link in its path.

## Main definitions

* `Link.part`: A part of a link.
-/

namespace Stencil

namespace Link

/-- The host with its port. -/
def hostWithPort (l : Link) : List Char :=
  l.host.getD [] ++ l.portMarked

/-- What is optional, behind its mark, unless it is nothing. -/
def filled (mark : Char) (cs : Option (List Char)) : List Char :=
  if cs.getD [] = [] then [] else marked mark cs

/-- Scheme and host of a link. -/
def site (l : Link) : List Char :=
  l.scheme ++ ':' :: '/' :: '/' :: l.hostWithPort

/-- Where the content of a link comes from, if that can be said. -/
def origin? (l : Link) : Option (List Char) :=
  if l.isSpecial then if l.isFile then none else some l.site
  else if l.scheme = "blob".toList then do
    let inner ← read? (String.ofList l.path)
    if ["http", "https"].contains (String.ofList inner.scheme) then return inner.site else none
  else none

/-- A part of a link. -/
def part (p : LinkPart) (l : Link) : String :=
  match p with
  | .href => l.href
  | .origin => ((l.origin?).map String.ofList).getD "null"
  | .scheme => String.ofList (l.scheme ++ [':'])
  | .user => String.ofList l.user
  | .password => String.ofList l.password
  | .host => String.ofList l.hostWithPort
  | .hostname => String.ofList (l.host.getD [])
  | .port => String.ofList l.port
  | .path => String.ofList l.path
  | .query => String.ofList (filled '?' l.query)
  | .fragment => String.ofList (filled '#' l.fragment)
  | .parameters => String.ofList (l.query.getD [])

end Link

end Stencil
