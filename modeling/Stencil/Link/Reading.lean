import Stencil.Link.Path
import Stencil.Number.Reading

/-!
# Reading Links

The link that a text is.

Blanks and controls around a link do not belong to it, and line breaks and tabs
are passed over. A special link takes any number of slashes behind its scheme; the
others have an authority behind two of them. What a part cannot contain is
escaped, and the path is walked. A text is no link if it has no scheme, or if
there cannot be such a host or such a port.

## Main definitions

* `Link.read?`: The link that a text is, in normal form.
-/

namespace Stencil

namespace Link

/-- A text without line breaks and tabs, which are passed over in links. -/
def compact (cs : List Char) : List Char :=
  cs.filter fun c => !(['\t', '\n', '\r'].contains c)

/-- A text without blanks and controls around it. -/
def trimmed (cs : List Char) : List Char :=
  let isOutside (c : Char) : Bool := c.toNat ≤ 0x20
  ((cs.dropWhile isOutside).reverse.dropWhile isOutside).reverse

/-- Whether a text is a scheme. -/
def isScheme (cs : List Char) : Bool :=
  match cs with
  | c :: rest =>
    c.isAlpha && rest.all fun c => c.isAlphanum || c == '+' || c == '-' || c == '.'
  | [] => false

/-- With the port that digits are, if it is a number of 16 bits. -/
def withDigits? (digits : List Char) (l : Link) : Option Link :=
  match Number.readDigits? 10 0 digits with
  | some n =>
    if n < twoTo 16 then some { l with port := mentioned l.scheme (Nat.toDigits 10 n) } else none
  | none => none

/-- With a query and a path that a text is. The path starts behind the first
    slash. -/
def withTail (cs : List Char) (l : Link) : Link :=
  let (path, query) := cut (· == '?') cs
  let k := Path.kindOf l
  { l with
    path := if path = [] && !l.isSpecial then [] else Path.read k (Path.withoutSlash k path)
    query := (behind query).map (Escape.write (Escape.inQuery l.isSpecial)) }

/-- With a path without structure and a query. -/
def withOpaqueTail (cs : List Char) (l : Link) : Link :=
  let (path, query) := cut (· == '?') cs
  { l with
    path := Escape.write Escape.always path
    query := (behind query).map (Escape.write (Escape.inQuery l.isSpecial)) }

/-- With the user and the password in front of a host. -/
def withCredentials (cs : List Char) (l : Link) : Link :=
  let (user, password) := cut (· == ':') cs
  { l with
    user := Escape.write Escape.inUser user
    password := Escape.write Escape.inUser (password.drop 1) }

/-- The user information, if there is any, and what follows it: all up to the
    last at sign in front of the path and the query. -/
def cutUser (isSpecial : Bool) (cs : List Char) : Option (List Char) × List Char :=
  let (front, rest) := cut (fun c => c == '?' || Host.isSlash isSpecial c) cs
  match cut (· == '@') front.reverse with
  | (_, []) => (none, cs)
  | (host, _ :: user) => (some user.reverse, host.reverse ++ rest)

/-- With an authority and what follows it. -/
def withAuthority? (cs : List Char) (l : Link) : Option Link := do
  let (user, rest) := cutUser l.isSpecial cs
  let l := match user with
    | some user => l.withCredentials user
    | none => l
  let (host, rest) := Host.span l.isSpecial rest
  let required := l.isSpecial || user.isSome || rest.head? = some ':'
  let host ← if host = [] && !required then some [] else Host.read? l.isSpecial host
  let l := { l with host := some host }
  match rest with
  | ':' :: rest =>
    let digits := rest.takeWhile Char.isDigit
    let rest := rest.drop digits.length
    let ends := (rest.head?.map fun c => c == '?' || Host.isSlash l.isSpecial c).getD true
    let l ← if digits = [] then some l else l.withDigits? digits
    if ends then return l.withTail rest else none
  | rest => return l.withTail rest

/-- The host of a file, unless it is this machine. -/
def fileHost? (cs : List Char) : Option (List Char) := do
  let host ← Host.read? true cs
  return if host = "localhost".toList then [] else host

/-- With the way to a file. Behind two slashes there is a host, unless there is a
    drive. -/
def withFile? (cs : List Char) (l : Link) : Option Link := do
  let l := { l with host := some [] }
  let isSlash := Host.isSlash true
  match cs with
  | a :: b :: rest =>
    if isSlash a && isSlash b then
      let (host, path) := cut (fun c => c == '?' || isSlash c) rest
      if Path.isDrive host then return l.withTail ('/' :: rest)
      else if host = [] then return l.withTail path
      else return { l with host := some (← fileHost? host) }.withTail path
    else return l.withTail cs
  | cs => return l.withTail cs

/-- The link that a text is, in normal form. -/
def read? (text : String) : Option Link := do
  let (cs, fragment) := cut (· == '#') (trimmed (compact text.toList))
  let (scheme, rest) := cut (· == ':') cs
  if isScheme scheme && rest ≠ [] then
    let rest := rest.drop 1
    let l : Link :=
      { scheme := scheme.map Char.toLower
        fragment := (behind fragment).map (Escape.write Escape.inFragment) }
    if l.isFile then l.withFile? rest
    else if l.isSpecial then l.withAuthority? (rest.dropWhile (Host.isSlash true))
    else
      match rest with
      | '/' :: '/' :: rest => l.withAuthority? rest
      | '/' :: _ => return l.withTail rest
      | rest => return l.withOpaqueTail rest
  else none

end Link

end Stencil
