import Stencil.Calendar.Reading
import Stencil.Link.Reading
import Stencil.Pattern.Grammar
import Stencil.Store.Text

/-!
# Deep Copies

A copy of a value that shares no object with it, functions apart.

Copying an object takes three steps: allocate a shell, copy what the object
holds, and fill the shell with the copies. The shell has its address before
anything inside is copied, so an object that is met again, be it shared or on
a cycle, is already known by the address of its copy. What an object holds is
a list of values, its `parts`, and filling is putting another list in their
place; the recursion does not know one kind of object from another.

Kinds whose state only their own operations reach are made anew from that
state, and these operations are methods that an object may have replaced by
others. So finding the shell may call functions, and copying may fail. All
other objects keep their prototype, and their properties with all attributes;
accessors keep their functions.

Each nested call has one more object behind it, so a bound by the number of
objects is never used up.

## Main definitions

* `Object.parts`, `Object.withParts`: What an object holds.
* `Shell`, `Store.shell`: What a copy starts from.
* `Copying`: A store and the copies made so far.
* `Store.copy`: A deep copy.
-/

namespace Stencil

namespace Property

/-- The value that a property holds. -/
def parts (p : Property) : List Value :=
  match p.slot with
  | .data v => [v]
  | .accessor _ _ => []

/-- The property with another value; the values left over. -/
def withParts (p : Property) (vs : List Value) : Property × List Value :=
  match p.slot, vs with
  | .data _, v :: rest => ({ p with slot := .data v }, rest)
  | _, vs => (p, vs)

end Property

namespace Keyed

/-- The values that properties hold, in order. -/
def parts (fields : Keyed Property) : List Value :=
  fields.flatMap fun (_, p) => p.parts

/-- The properties with other values; the values left over. -/
def withParts : Keyed Property → List Value → Keyed Property × List Value
  | [], vs => ([], vs)
  | (key, p) :: more, vs =>
    let (p, vs) := p.withParts vs
    let (more, vs) := withParts more vs
    ((key, p) :: more, vs)

end Keyed

/-- Neighbours as pairs. -/
def pairUp : List Value → List (Value × Value)
  | k :: v :: more => (k, v) :: pairUp more
  | _ => []

namespace Body

/-- The values that a body holds, in order. -/
def parts : Body → List Value
  | array elements => elements.map (Option.getD · .undefined)
  | map entries => entries.flatMap fun (k, v) => [k, v]
  | set elements => elements
  | template t => .object t.journal.root :: t.defaults.map Prod.snd
  | _ => []

/-- The body with other values. -/
def withParts (b : Body) (vs : List Value) : Body :=
  match b with
  | array _ => array (vs.map some)
  | map _ => map (entriesOf (pairUp vs))
  | set _ => set (elementsOf vs)
  | template t =>
    match vs with
    | .object root :: vs =>
      template { t with
        defaults := (t.defaults.map Prod.fst).zip vs
        journal := { t.journal with root := root } }
    | _ => b
  | b => b

end Body

namespace Object

/-- The values that an object holds, those of its properties first. -/
def parts (o : Object) : List Value :=
  o.fields.parts ++ o.body.parts

/-- The object with other values. -/
def withParts (o : Object) (vs : List Value) : Object :=
  let (fields, rest) := o.fields.withParts vs
  { o with fields := fields, body := o.body.withParts rest }

/-- What the copy of an object starts from if its kind has no way of its own:
    the object itself, open to changes. Where the state of a kind cannot be reached,
    the copy only looks like one of the kind and is a record. -/
def ordinaryShell (o : Object) : Object :=
  let body := match o.body with
    | .template t => .template t
    | .function p => .function p
    | _ => .record
  { o with integrity := {}, body := body }

end Object

/-- What a copy starts from. -/
inductive Shell where
  /-- A new object, to be filled with copies of what it holds. -/
  | object (o : Object)
  /-- An object that takes the place of the copy as it is. -/
  | finished (answer : Ref)

namespace Store

/-- The instant that a date is made of: that of another date, the one that a
    text names, or the one that a number counts up to. -/
def instantOf (st : Store) (interp : Interpretation) (v : Value) :
    Except Thrown (Option Instant) := do
  let counted (v : Value) : Except Thrown (Option Instant) := do
    match ← st.simple interp .either v with
    | .text s => return Instant.read? s
    | v => return Instant.ofNumber? (← simpleNumber v)
  match v with
  | .object r =>
    match (st.get r).body with
    | .date instant => return instant
    | _ => counted v
  | v => counted v

/-- The text that a value is as a part of a pattern; nothing is the empty
    text. -/
def partText (st : Store) (interp : Interpretation) (v : Value) : Except Thrown String :=
  if v = .undefined then .ok "" else st.textOf interp v

/-- The body and the flags that a pattern is made of: those of another pattern
    as far as they are not given. -/
def patternParts (st : Store) (interp : Interpretation) (source flags : Value) :
    Except Thrown (Store × Value × Value) :=
  match source with
  | .object r =>
    match (st.get r).body with
    | .pattern p _ =>
      .ok (st, .text p.source, if flags = .undefined then .text p.flags else flags)
    | _ =>
      if st.inherits r .pattern then do
        let (st, inner) ← st.read interp r (.text "source")
        let (st, flags) ← if flags = .undefined then st.read interp r (.text "flags")
          else .ok (st, flags)
        return (st, inner, flags)
      else .ok (st, source, flags)
  | _ => .ok (st, source, flags)

/-- The pattern made of what an object gives as body and flags. -/
def patternOf (st : Store) (interp : Interpretation) (r : Ref) : Except Thrown Pattern := do
  let (st, source) ← st.read interp r (.text "source")
  let (st, flags) ← st.read interp r (.text "flags")
  let (st, source, flags) ← st.patternParts interp source flags
  match Pattern.make? (← st.partText interp source) (← st.partText interp flags) with
  | .ok p => return p
  | .error message => throw (.fault .syntaxError message)

/-- The link that an object gives as its address. -/
def linkOf (st : Store) (interp : Interpretation) (r : Ref) : Except Thrown String := do
  let (st, href) ← st.read interp r (.text "href")
  match Link.read? (← st.textOf interp href) with
  | some l => return l.href
  | none => mistyped "Invalid URL"

/-- The shell around a value; an object is its own. -/
def wrapperShell (st : Store) : Answer → Store × Shell
  | .fresh o =>
    let (st, r) := st.allocate o
    (st, .finished r)
  | .existing (.object r) => (st, .finished r)
  | .existing .undefined | .existing .null => (st, .object (Object.plain []))
  | .existing v => (st, .object (Object.ofBody (.boxed v)))

/-- The shell of a copy that starts from a collection. -/
def collectionShell (st : Store) (r : Ref) : Except Thrown (Store × Shell) :=
  let new (body : Body) : Except Thrown (Store × Shell) := .ok (st, .object (Object.ofBody body))
  match (st.get r).body with
  | .map entries =>
    if st.inherits r .map then new (.map entries)
    else st.misplaced r "Set.prototype.values"
  | .set elements =>
    if st.inherits r .set then new (.set elements)
    else st.misplaced r "Map.prototype.entries"
  | _ =>
    st.misplaced r
      (if st.inherits r .map then "Map.prototype.entries" else "Set.prototype.values")

/-- What the copy of an object starts from. Built-in kinds are made anew and
    lose their class and their properties; a buffer becomes an ordinary byte
    array, and in an array nothing is missing and nothing is fixed. -/
def shell (interp : Interpretation) (st : Store) (r : Ref) : Except Thrown (Store × Shell) :=
  let o := st.get r
  let new (body : Body) : Except Thrown (Store × Shell) := .ok (st, .object (Object.ofBody body))
  if st.inherits r .date then do
    let (st, time) := (← st.invoke interp "value" r "getTime").settle st
    new (.date (← st.instantOf interp time))
  else if st.inherits r .pattern then do
    new (.pattern (← st.patternOf interp r) (.number (Number.ofInt 0)))
  else if st.inherits r .url then do
    new (.url (← st.linkOf interp r))
  else if st.inherits r .string || st.inherits r .number || st.inherits r .boolean then do
    return st.wrapperShell (← st.invoke interp "value" r "valueOf")
  else
    match o.body with
    | .octets .buffer w => new (.octets .uint8Array w)
    | .octets c w => new (.octets c w)
    | .cells c w => new (.cells c w)
    | .array _ => do
      let (st, elements) ← st.visit interp "value is not iterable" (.object r)
      return (st, .object (Object.ofBody (.array (elements.map some))))
    | _ =>
      if st.inherits r .map || st.inherits r .set then st.collectionShell r
      else .ok (st, .object o.ordinaryShell)

end Store

/-- A store in the middle of copying: the addresses of the objects copied so
    far, with those of their copies. -/
structure Copying where
  store : Store
  copies : List (Ref × Ref) := []

namespace Copying

/-- Copy values one after the other. -/
def each (copy : Copying → Value → Except Thrown (Copying × Value)) :
    Copying → List Value → Except Thrown (Copying × List Value)
  | state, [] => .ok (state, [])
  | state, v :: more => do
    let (state, v) ← copy state v
    let (state, vs) ← each copy state more
    return (state, v :: vs)

/-- Copy a value, with a bound on the depth. -/
def value (interp : Interpretation) : Nat → Copying → Value → Except Thrown (Copying × Value)
  | 0, _, _ => .error .tooDeep
  | bound + 1, state, v =>
    match v with
    | .object r =>
      if (state.store.get r).isFunction then .ok (state, v)
      else
        match state.copies.lookup r with
        | some copy => .ok (state, .object copy)
        | none => do
          match ← state.store.shell interp r with
          | (store, .finished copy) =>
            return ({ store := store, copies := (r, copy) :: state.copies }, .object copy)
          | (store, .object shell) =>
            let (store, copy) := store.allocate shell
            let (state, vs) ← each (value interp bound)
              { store := store, copies := (r, copy) :: state.copies } shell.parts
            return ({ state with store := state.store.write copy (shell.withParts vs) },
              .object copy)
    | v => .ok (state, v)

end Copying

namespace Store

/-- A deep copy of a value, in the store extended by the copied objects. -/
def copy (interp : Interpretation) (st : Store) (v : Value) : Except Thrown (Store × Value) := do
  let (state, v) ← Copying.value interp (st.objects.size + 1) { store := st } v
  return (state.store, v)

end Store

end Stencil
