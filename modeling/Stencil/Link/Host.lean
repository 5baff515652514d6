import Stencil.Link.Address
import Stencil.Link.Domain
import Stencil.Link.Escape

/-!
# Hosts of Links

What stands for a host in a link.

A host in brackets is a long address. In a special link any other host is a name
or a short address, and its name is written in basic characters. In the other
links it is text in which little more than the marks of a link is excluded.

## Main definitions

* `Host.read?`: The host that a text is.
* `Host.span`: The text of a host, and what follows.
-/

namespace Stencil

namespace Host

/-- The characters that no host can contain. -/
def isForbidden (c : Char) : Bool :=
  ['\x00', '\t', '\n', '\r', ' ', '#', '/', ':', '<', '>', '?', '@', '[', '\\', ']', '^',
    '|'].contains c

/-- The characters that no name of a host can contain. -/
def isForbiddenInName (c : Char) : Bool :=
  isForbidden c || c.toNat ≤ 0x1F || c = '%' || c.toNat = 0x7F

/-- The host of a special link, outside brackets. -/
def ofName? (cs : List Char) : Option (List Char) := do
  let name ← Domain.toBasic? (Escape.read cs)
  if name = [] || name.any isForbiddenInName then none
  else if Address.isNumeric name then (Address.short? name).map Address.showShort
  else return name

/-- The host that a text is, in normal form. -/
def read? (isSpecial : Bool) (cs : List Char) : Option (List Char) :=
  match cs with
  | [] => none
  | '[' :: inner =>
    if inner.getLast? = some ']' then
      (Address.long? inner.dropLast).map fun words => '[' :: Address.showLong words ++ [']']
    else none
  | cs =>
    if isSpecial then ofName? cs
    else if cs.any isForbidden then none
    else some (Escape.write Escape.always cs)

/-- Whether a character is taken for a slash. -/
def isSlash (isSpecial : Bool) (c : Char) : Bool :=
  c == '/' || (isSpecial && c == '\\')

/-- The text of a host and what follows it, given whether a bracket is open. In
    brackets nothing ends a host. -/
def spanFrom (isSpecial inBracket : Bool) : List Char → List Char × List Char
  | [] => ([], [])
  | c :: cs =>
    if !inBracket && (c == ':' || c == '?' || isSlash isSpecial c) then ([], c :: cs)
    else
      let (host, rest) := spanFrom isSpecial (if inBracket then c != ']' else c == '[') cs
      (c :: host, rest)

/-- The text of a host, and what follows it. -/
def span (isSpecial : Bool) (cs : List Char) : List Char × List Char :=
  spanFrom isSpecial false cs

end Host

end Stencil
