import Stencil.Number
import Stencil.Pattern
import Stencil.Pattern.SetClass
import Stencil.Text.Identifier

/-!
# The Grammar of Patterns

Which texts are the body of a pattern, and what is wrong with the others.

A body is read once from left to right. What is open at a point is a stack of
groups, and every step reads one term with its quantifier, or opens or closes
a group. Two things depend on the body as a whole and are found out before:
how many groups it captures, and whether it names any of them. With the flag
`u` or `v` the grammar is strict; without, what makes no sense as syntax stands
for itself.

A group can be referred to by its name from anywhere, so references are looked
up at the end. A name is taken from where its group is closed.

## Main definitions

* `Pattern.count`: How many groups a body captures.
* `Pattern.groupName`, `Pattern.quantifier`, `Pattern.step`: The readers.
* `Pattern.check`: Whether a body is well-formed.
* `Pattern.make?`: The pattern with a given body and flags.
-/

namespace Stencil

namespace Pattern

/-- How many groups a body captures and whether it names one, given whether a
    bracket is open. -/
def count (inBracket : Bool) : List Char → Nat × Bool
  | [] => (0, false)
  | '\\' :: _ :: cs => count inBracket cs
  | '[' :: cs => count true cs
  | ']' :: cs => count false cs
  | '(' :: '?' :: '<' :: cs =>
    let (n, named) := count inBracket cs
    if inBracket || cs.head? = some '=' || cs.head? = some '!' then (n, named)
    else (n + 1, true)
  | '(' :: '?' :: cs => count inBracket cs
  | '(' :: cs =>
    let (n, named) := count inBracket cs
    (if inBracket then n else n + 1, named)
  | _ :: cs => count inBracket cs

/-! ### Names -/

/-- The name of a group up to the closing angle bracket, with at most so many
    characters to come. Characters can be written as escapes, the bracket as
    well. -/
def groupName : Nat → String → List Char → Except Flaw (String × List Char)
  | 0, _, _ | _, _, [] => .error .wrongName
  | bound + 1, name, c :: cs => do
    let (c, cs) ←
      if c = '\\' then
        match cs with
        | 'u' :: rest =>
          match unicode? true rest with
          | some (n, rest) => pure (Char.ofNat n, rest)
          | none => throw .wrongUnicodeEscape
        | _ => throw .wrongName
      else pure (c, cs)
    if name = "" then
      if startsIdentifier c then groupName bound (name.push c) cs else throw .wrongName
    else if c = '>' then return (name, cs)
    else if continuesIdentifier c then groupName bound (name.push c) cs
    else throw .wrongName

/-! ### Quantifiers -/

/-- The largest bound of a quantifier. Larger ones count as this one. -/
def maxBound : Nat := twoTo 31 - 1

/-- The bound that digits stand for. -/
def boundOf (digits : List Char) : Nat :=
  min (valueOf 10 digits) maxBound

/-- The bounds between braces at the front. -/
def interval? : List Char → Option ((Nat × Option Nat) × List Char)
  | '{' :: cs =>
    let low := cs.takeWhile Char.isDigit
    if low = [] then none
    else
      match cs.drop low.length with
      | '}' :: rest => some ((boundOf low, some (boundOf low)), rest)
      | ',' :: '}' :: rest => some ((boundOf low, none), rest)
      | ',' :: rest =>
        let high := rest.takeWhile Char.isDigit
        match high, rest.drop high.length with
        | _ :: _, '}' :: rest => some ((boundOf low, some (boundOf high)), rest)
        | _, _ => none
      | _ => none
  | _ => none

/-- What is left behind a quantifier, if there is one. -/
def quantifier (s : Survey) (allowed : Bool) (cs : List Char) : Except Flaw (List Char) :=
  let lazy (rest : List Char) : Except Flaw (List Char) :=
    if !allowed then .error .unrepeatable
    else
      match rest with
      | '?' :: rest => .ok rest
      | rest => .ok rest
  match cs with
  | '*' :: rest | '+' :: rest | '?' :: rest => lazy rest
  | '{' :: _ =>
    match interval? cs with
    | some ((low, some high), rest) =>
      if high < low then .error .quantifierOrder else lazy rest
    | some ((_, none), rest) => lazy rest
    | none => if s.strict then .error .openQuantifier else .ok cs
  | cs => .ok cs

/-! ### Terms -/

/-- The kinds of groups, as far as they differ in what may follow. -/
inductive GroupKind where
  | ordinary
  | ahead
  | behind
deriving DecidableEq

/-- An open group, with its name if it has one. -/
structure Group where
  kind : GroupKind
  name : Option String := none

/-- What has been read: the open groups, the names of the closed ones, and the
    names that are referred to. -/
structure Progress where
  groups : List Group := []
  names : List String := []
  references : List String := []

/-- Open a group, behind its parenthesis. -/
def openGroup (p : Progress) (cs : List Char) : Except Flaw (Progress × List Char) :=
  let opened (g : Group) (cs : List Char) : Except Flaw (Progress × List Char) :=
    .ok ({ p with groups := g :: p.groups }, cs)
  match cs with
  | '?' :: ':' :: cs => opened { kind := .ordinary } cs
  | '?' :: '=' :: cs | '?' :: '!' :: cs => opened { kind := .ahead } cs
  | '?' :: '<' :: '=' :: cs | '?' :: '<' :: '!' :: cs => opened { kind := .behind } cs
  | '?' :: '<' :: cs => do
    let (name, rest) ← groupName (cs.length + 1) "" cs
    opened { kind := .ordinary, name := some name } rest
  | '?' :: _ => .error .wrongGroup
  | cs => opened { kind := .ordinary } cs

/-- Close the innermost group. No other group may have its name. -/
def closeGroup (p : Progress) : Except Flaw (GroupKind × Progress) :=
  match p.groups with
  | [] => .error .unopenedGroup
  | g :: outer =>
    match g.name with
    | none => .ok (g.kind, { p with groups := outer })
    | some name =>
      if p.names.contains name then .error .nameTaken
      else .ok (g.kind, { p with groups := outer, names := name :: p.names })

/-- What stands behind a backslash outside brackets, with the quantifier
    behind it. -/
def escapedTerm (s : Survey) (p : Progress) : List Char → Except Flaw (Progress × List Char)
  | [] => .error .openEscape
  | c :: cs => do
    let atom (rest : List Char) : Except Flaw (Progress × List Char) := do
      return (p, ← quantifier s true rest)
    let plain : Except Flaw (Progress × List Char) := do atom (← escape s false (c :: cs)).2
    if c = 'b' || c = 'B' then return (p, cs)
    else if classLetters.contains c then atom cs
    else if (c = 'p' || c = 'P') && s.strict then atom (← property s false (c = 'P') cs).2
    else if c = 'k' && (s.strict || s.named) then
      match cs with
      | '<' :: cs =>
        let (name, rest) ← groupName (cs.length + 1) "" cs
        return ({ p with references := name :: p.references }, ← quantifier s true rest)
      | _ => throw .namelessReference
    else if '1' ≤ c ∧ c ≤ '9' then
      let digits := (c :: cs).takeWhile Char.isDigit
      if valueOf 10 digits ≤ s.captures then atom ((c :: cs).drop digits.length)
      else if s.strict then throw .wrongEscape
      else if c = '8' || c = '9' then atom cs
      else plain
    else plain

/-- What follows a class behind its opening bracket. -/
def classEnd (s : Survey) (cs : List Char) : Except Flaw (List Char) :=
  match s.mode with
  | .sets => do return (← setClass s (cs.length + 1) cs).2
  | _ => bracket s (2 * cs.length + 1) { chars := if cs.head? = some '^' then cs.drop 1 else cs }

/-- One step of reading: a term with its quantifier, or the border of a group
    or of an alternative. -/
def step (s : Survey) (p : Progress) (c : Char) (cs : List Char) :
    Except Flaw (Progress × List Char) := do
  let atom (rest : List Char) : Except Flaw (Progress × List Char) := do
    return (p, ← quantifier s true rest)
  match c with
  | '(' => openGroup p cs
  | ')' =>
    let (kind, p) ← closeGroup p
    let allowed := kind = .ordinary || (kind = .ahead && !s.strict)
    return (p, ← quantifier s allowed cs)
  | '|' | '^' | '$' => return (p, cs)
  | '*' | '+' | '?' => throw .nothingToRepeat
  | '[' => atom (← classEnd s cs)
  | '\\' => escapedTerm s p cs
  | '{' =>
    if (interval? (c :: cs)).isSome then throw .nothingToRepeat
    else if s.strict then throw .loneBracket
    else atom cs
  | '}' | ']' => if s.strict then throw .loneBracket else atom cs
  | _ => atom cs

/-- Read a body, in at most so many steps. -/
def readWithin (s : Survey) : Nat → Progress → List Char → Except Flaw Progress
  | 0, p, _ => .ok p
  | _, p, [] => if p.groups.isEmpty then .ok p else .error .openGroup
  | bound + 1, p, c :: cs => do
    let (p, rest) ← step s p c cs
    readWithin s bound p rest

/-- Whether a body is well-formed, or what is wrong with it. -/
def check (mode : Mode) (source : String) : Except Flaw Unit := do
  let cs := source.toList
  let (captures, named) := count false cs
  let p ← readWithin ⟨mode, captures, named⟩ (cs.length + 1) {} cs
  if p.references.all p.names.contains then return () else throw .unknownReference

/-- The mode that flags ask for. -/
def modeOf (flags : List Char) : Mode :=
  if flags.contains 'v' then .sets else if flags.contains 'u' then .strict else .loose

/-- The pattern with a given body and flags, or the text of the error. Each flag
    may be given once, and the two strict grammars exclude each other. -/
def make? (source flags : String) : Except String Pattern := do
  let fs := flags.toList
  let known := fs.all allFlags.contains && fs.eraseDups.length = fs.length
  if !known || (fs.contains 'u' && fs.contains 'v') then
    throw ("Invalid flags supplied to RegExp constructor '" ++ flags ++ "'")
  let pattern := ofParts source flags
  match check (modeOf fs) source with
  | .ok _ => return pattern
  | .error flaw =>
    throw ("Invalid regular expression: /" ++ source ++ "/" ++ pattern.flags ++ ": "
      ++ flaw.message)

end Pattern

end Stencil
