import Stencil.Family.Makers
import Stencil.Link.Change
import Stencil.Store.Text

/-!
# Paths Through Properties

Where a path through the properties of a value leads.

A path can leave the objects of the store: the constructor of a family, its
prototype and its methods are not kept there, but they have properties, and a
path can go on from them. What a prototype computes for its objects makes no
sense for the prototype, so most of these properties cannot be read there.

## Main definitions

* `Place`: What a path leads to.
* `Store.step`, `Store.follow`: One step of a path, and all of them.
* `Store.keyOf`: The key that a value stands for.
-/

namespace Stencil

/-- What a path leads to: a value, or something that every program has. -/
inductive Place where
  | value (v : Value)
  | prototype (f : Family)
  | maker (f : Family)
  /-- A function with its name and the number of its parameters. -/
  | method (name : String) (arity : Nat) (isBuiltin : Bool)
  /-- The parameters of a link. -/
  | parameters (link : Ref)
deriving DecidableEq

namespace Place

/-- Nothing. -/
def nowhere : Place := value .undefined

/-- A number. -/
def count (n : Nat) : Place := value (Store.countValue n)

/-- What a native member of a name is, if it is not computed. -/
def ofNative (name : String) : Native → Place
  | .maker f => maker f
  | .text s => value (.text s)
  | .number n => count n
  | .method m f => method (f.methodLabel name) (f.methodArity m) f.isBuiltin
  | .part _ => nowhere

/-- What a function has that has nothing of its own under a name. -/
def functionMember (ownName : String) (arity : Nat) (name : String) : Place :=
  match name, Family.function.native? name with
  | "name", _ => value (.text ownName)
  | "length", _ => count arity
  | "__proto__", _ => prototype .function
  | name, some (n, _) => ofNative name n
  | _, none => nowhere

/-- What the constructor of a family has. That of a special case derives from
    the one of the family. -/
def makerMember (f : Family) (name : String) : Place :=
  match name, f.static? name, f.parent? with
  | "prototype", _, _ => prototype f
  | "__proto__", _, some g => if g = .object then prototype .function else maker g
  | _, some (.number n), _ => value (.number n)
  | _, some (.setting n), _ => count n
  | _, some (.symbol label), _ => value (.symbol label)
  | name, some (.function arity), _ => method name arity f.isBuiltin
  | name, none, _ => functionMember f.name f.makerArity name

/-- What the prototype of a family has that is itself an object of the family. -/
def prototypeOwn? (f : Family) (name : String) : Option Place :=
  match f, name with
  | .array, "length" | .string, "length" | .function, "length" => some (count 0)
  | .function, "name" => some (value (.text ""))
  | _, _ => none

end Place

namespace Store

/-- The name of a property that a value stands for. -/
def keyOf (interp : Interpretation) (st : Store) (v : Value) : Except Thrown Key :=
  match v with
  | .symbol label => .ok (.symbol label)
  | v => do
    match ← st.simple interp .text v with
    | .symbol label => return .symbol label
    | v => return .text (← simpleText v)

/-- A key as it is shown in messages. -/
def keyText : Key → String
  | .text name => name
  | .symbol label => "Symbol(" ++ label ++ ")"

/-- What the prototype of a family gives for a property that it computes for its
    objects, and that a family has. -/
def prototypePart (st : Store) (f holder : Family) (p : Part) : Except Thrown (Store × Place) :=
  match p with
  | .next =>
    .ok (st, match f.parent? with
      | some g => .prototype g
      | none => .value .null)
  | .source => .ok (st, .value (.text "(?:)"))
  | .flags => .ok (st, .value (.text ""))
  | .flag _ => .ok (st, .nowhere)
  | .placeholders => unreadable .undefined "placeholders"
  | .defaults =>
    let (st, v) := st.allocateValue (Object.ofBody (.map []))
    .ok (st, .value v)
  | p => misplacedPart holder p (shownFamily f)

/-- What the prototype of a family has. -/
def prototypeMember (st : Store) (f : Family) (name : String) : Except Thrown (Store × Place) :=
  match Place.prototypeOwn? f name, f.native? name with
  | some place, _ => .ok (st, place)
  | none, some (.part p, g) => st.prototypePart f g p
  | none, some (n, _) => .ok (st, Place.ofNative name n)
  | none, none => .ok (st, .nowhere)

/-- What an object has under a key. -/
def propertyPlace (interp : Interpretation) (st : Store) (r : Ref) (key : Key) :
    Except Thrown (Store × Place) :=
  match st.find? r key, (st.get r).prototype, (st.get r).body with
  | some (.native (.part .next) _), .family f, _ => .ok (st, .prototype f)
  | some (.native (.part (.link .parameters)) _), _, .url _ => .ok (st, .parameters r)
  | some (.native (.maker f) _), _, _ => .ok (st, .maker f)
  | some (.native (.method m f) _), _, _ => .ok (st, Place.ofNative (keyText key) (.method m f))
  | _, _, _ => do
    let (st, v) ← st.read interp r key
    return (st, .value v)

/-- What a simple value has under a key: a text its elements and its length, a
    symbol its label, and every value the members of the family of its
    wrapper. -/
def simplePlace (st : Store) (v : Value) (key : Key) : Except Thrown (Store × Place) :=
  let own : Option Value := match v, key with
    | .text s, .text name => (Object.ofBody (.boxed (.text s))).value? name
    | _, _ => none
  match own, key, v with
  | some v, _, _ => .ok (st, .value v)
  | none, .text "description", .symbol label => .ok (st, .value (.text label))
  | none, .text "__proto__", v => .ok (st, .prototype v.wrapper)
  | none, .text name, v => st.prototypeMember v.wrapper name
  | none, .symbol _, _ => .ok (st, .nowhere)

/-- What the parameters of a link have under a name. -/
def parametersPlace (st : Store) (r : Ref) (name : String) : Place :=
  match (st.get r).body, name with
  | .url href, "size" => .count (Link.ofHref href).parameters.length
  | _, _ => .nowhere

/-- The entry of a map under a key, by whatever the map has as a method for
    that. -/
def entryPlace (st : Store) (interp : Interpretation) (r : Ref) (key : Value) :
    Except Thrown (Store × Place) := do
  match ← st.method? interp r "get" with
  | (st, some (.function f)) =>
    let (st, v) := (← st.call interp f (.object r) key).settle st
    return (st, .value v)
  | (st, some (.native _ _)) =>
    match (st.get r).body with
    | .map entries => return (st, .value ((valueAt? key entries).getD .undefined))
    | _ => st.misplaced r "Map.prototype.get"
  | _ => notFunction "cur.get"

/-- One step of a path: the entry of a map, or else a property. -/
def step (interp : Interpretation) (st : Store) (place : Place) (key : Value) :
    Except Thrown (Store × Place) := do
  match place with
  | .value (.object r) =>
    if st.inherits r .map then st.entryPlace interp r key
    else propertyPlace interp st r (← st.keyOf interp key)
  | .value .undefined => unreadable .undefined (keyText (← st.keyOf interp key))
  | .value .null => unreadable .null (keyText (← st.keyOf interp key))
  | .value v => st.simplePlace v (← st.keyOf interp key)
  | .prototype f => st.prototypeMember f (keyText (← st.keyOf interp key))
  | .maker f => return (st, Place.makerMember f (keyText (← st.keyOf interp key)))
  | .method name arity _ =>
    return (st, Place.functionMember name arity (keyText (← st.keyOf interp key)))
  | .parameters r => return (st, st.parametersPlace r (keyText (← st.keyOf interp key)))

/-- What is at the end of a path. -/
def follow (interp : Interpretation) : Store → Place → List Value → Except Thrown (Store × Place)
  | st, place, [] => .ok (st, place)
  | st, place, key :: more => do
    let (st, next) ← step interp st place key
    follow interp st next more

end Store

end Stencil
