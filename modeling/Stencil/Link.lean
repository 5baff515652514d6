/-!
# Links

The parts of a link.

A link starts with a scheme. If two slashes follow, then what stands between
them and the path is the authority: perhaps a user with a password, a host,
and perhaps a port. A query begins at the first question mark and a fragment at
the first number sign.

A few schemes are special: their links always have a host, take a backslash for
a slash, and do not mention the port that they use anyway. A link without an
authority whose path does not start with a slash, such as an address for mail,
has no structure that a path or a host could be put into.

Links are kept as text in normal form, in which nothing is left to be escaped
and every part can be found by the mark in front of it.

## Main definitions

* `Link`: The parts of a link.
* `Link.ofHref`, `Link.href`: The parts of a link in normal form, and the link
  that parts make up.
* `LinkPart`: The parts that can be asked for.
-/

namespace Stencil

/-- The parts of a link that can be asked for. -/
inductive LinkPart where
  | href
  | origin
  | scheme
  | user
  | password
  | host
  | hostname
  | port
  | path
  | query
  | fragment
  /-- The query as a collection of its own. -/
  | parameters
deriving DecidableEq

/-- The parts of a link without the marks between them. -/
structure Link where
  scheme : List Char
  user : List Char := []
  password : List Char := []
  host : Option (List Char) := none
  port : List Char := []
  path : List Char := []
  query : Option (List Char) := none
  fragment : Option (List Char) := none
deriving DecidableEq

namespace Link

/-- A text cut before the first character of a kind. -/
def cut (p : Char → Bool) (cs : List Char) : List Char × List Char :=
  (cs.takeWhile fun c => !p c, cs.dropWhile fun c => !p c)

/-- The pieces of a text between the characters of a kind. -/
def pieces (isMark : Char → Bool) : List Char → List (List Char)
  | [] => [[]]
  | c :: more =>
    match isMark c, pieces isMark more with
    | true, rest => [] :: rest
    | false, [] => [[c]]
    | false, piece :: rest => (c :: piece) :: rest

/-- What follows a mark, if it is there. -/
def behind : List Char → Option (List Char)
  | [] => none
  | _ :: rest => some rest

/-! ### Kinds of links -/

/-- The special schemes with the ports that they use anyway. -/
def specialSchemes : List (String × String) :=
  [("http", "80"), ("https", "443"), ("ws", "80"), ("wss", "443"), ("ftp", "21"), ("file", "")]

/-- Whether the scheme is special. -/
def isSpecial (l : Link) : Bool :=
  (specialSchemes.lookup (String.ofList l.scheme)).isSome

/-- Whether the link leads to a file. -/
def isFile (l : Link) : Bool :=
  l.scheme = "file".toList

/-- Whether the path has no structure. -/
def isOpaque (l : Link) : Bool :=
  l.host.isNone && l.path.head? ≠ some '/'

/-- Whether there can be a user and a port: whether there is a host to have
    them. -/
def hasHost (l : Link) : Bool :=
  !l.isFile && l.host.getD [] ≠ []

/-- Whether a path would be taken for an authority. It is told apart by a step
    to the same place in front of it. -/
def isGuarded (l : Link) : Bool :=
  l.host.isNone && ['/', '/'].isPrefixOf l.path

/-- A port, unless the scheme uses it anyway. -/
def mentioned (scheme port : List Char) : List Char :=
  if specialSchemes.lookup (String.ofList scheme) = some (String.ofList port) then [] else port

/-! ### Normal form -/

/-- The user information in front of a host. -/
def credentials (l : Link) : List Char :=
  if l.user = [] && l.password = [] then []
  else l.user ++ (if l.password = [] then [] else ':' :: l.password) ++ ['@']

/-- The port behind its colon. -/
def portMarked (l : Link) : List Char :=
  if l.port = [] then [] else ':' :: l.port

/-- What is optional, behind its mark. -/
def marked (mark : Char) : Option (List Char) → List Char
  | some cs => mark :: cs
  | none => []

/-- The link that parts make up. -/
def href (l : Link) : String :=
  let front : List Char := match l.host with
    | some host => '/' :: '/' :: l.credentials ++ host ++ l.portMarked
    | none => if l.isGuarded then ['/', '.'] else []
  String.ofList (l.scheme ++ ':' :: front ++ l.path ++ marked '?' l.query
    ++ marked '#' l.fragment)

/-- The authority and what follows it, if there is one. -/
def authority? (cs : List Char) : Option (List Char × List Char) :=
  match cs with
  | '/' :: '/' :: rest => some (cut (fun c => c == '/' || c == '?' || c == '#') rest)
  | _ => none

/-- The user information and the host with its port. -/
def userAndHost (authority : List Char) : List Char × List Char :=
  match cut (· == '@') authority with
  | (user, _ :: host) => (user, host)
  | (host, []) => ([], host)

/-- The host and the colon with its port. A host in brackets may contain
    colons. -/
def hostAndPort (host : List Char) : List Char × List Char :=
  match host with
  | '[' :: _ =>
    let (inner, rest) := cut (· == ']') host
    (inner ++ rest.take 1, rest.drop 1)
  | _ => cut (· == ':') host

/-- A path without the guard that tells it from an authority. -/
def unguarded (path : List Char) : List Char :=
  if "/.//".toList.isPrefixOf path then path.drop 2 else path

/-- The parts of a link in normal form. -/
def ofHref (href : String) : Link :=
  let (scheme, rest) := cut (· == ':') href.toList
  let found := authority? (rest.drop 1)
  let (authority, rest) := found.getD ([], rest.drop 1)
  let (user, host) := userAndHost authority
  let (host, port) := hostAndPort host
  let (path, tail) := cut (fun c => c == '?' || c == '#') rest
  let (query, fragment) := cut (· == '#') tail
  { scheme := scheme
    user := (cut (· == ':') user).1
    password := (cut (· == ':') user).2.drop 1
    host := if found.isSome then some host else none
    port := port.drop 1
    path := if found.isSome then path else unguarded path
    query := behind query
    fragment := behind fragment }

end Link

end Stencil
