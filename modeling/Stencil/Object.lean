import Stencil.Calendar
import Stencil.Family
import Stencil.Level
import Stencil.Pattern
import Stencil.Placeholder
import Stencil.Value

/-!
# Objects

What an address leads to: a prototype, properties, and a body that says what
kind of object it is.

The prototype is where a property is looked for next. It is another object,
or the prototype of a built-in family, whose members are known and need no
object of their own. A body holds what only the operations of its kind can
reach: the elements of an array, the entries of a map, the instant of a date.
Some of that shows as properties that are not among the fields.

An array also says of its elements whether they can be changed, removed or
enumerated. Usually they can, and only what is otherwise is kept, beside whether
the object can get more properties.

A function is an object whose body names a procedure. What running it does is
not recorded here but given by an interpretation, so that everything proved
for all interpretations holds for all functions.

The body of a template holds its whole state. Somebody who reaches into a
template from outside sees the parts of that state as objects; from then on
they are objects, and the template is an ordinary object that refers to them.

## Main definitions

* `Attributes`, `Slot`, `Property`: One property with its attributes.
* `Procedure`: What a function object stands for.
* `Prototype`: Where lookups continue.
* `Template`: The state of a template.
* `Integrity`: How far an object can be changed.
* `Body`, `Object`: Objects.
* `Object.own?`, `Object.enumerable`: The properties that an object has
  itself.
-/

namespace Stencil

/-- What a property holds: a value, or functions that compute one and that take
    one. Either function may be absent. -/
inductive Slot where
  | data (v : Value)
  | accessor (getter setter : Option Ref)
deriving DecidableEq

/-- The attributes of a property. -/
structure Attributes where
  enumerable : Bool := true
  writable : Bool := true
  configurable : Bool := true
deriving DecidableEq

/-- A property and its attributes. -/
structure Property extends Attributes where
  slot : Slot
deriving DecidableEq

/-- The functions on values that come with the library. -/
inductive Routine where
  /-- The text of the argument. -/
  | text
  /-- The elements of an array as texts joined by a comma and a space. -/
  | joined
  /-- The argument as JSON. -/
  | json
  /-- The argument as templates write it, in angle brackets. -/
  | bracketed
  /-- The name of the type of the argument. -/
  | typeName
  /-- Twice the argument. -/
  | doubled
  /-- Twice the argument, as a successful result. -/
  | okDoubled
  /-- An error whose message wraps the argument. -/
  | wrapped
  /-- The argument. -/
  | argument
  /-- The object that the function is called on. -/
  | receiver
deriving DecidableEq

/-- What a function object stands for. -/
inductive Procedure where
  /-- Gives no value. -/
  | silent
  /-- Gives the same value each time. -/
  | constant (v : Value)
  /-- Raises a value. -/
  | raising (v : Value)
  /-- Raises a new error. -/
  | failing (kind : ErrorKind) (message : String)
  /-- Runs a routine on its argument. -/
  | routine (r : Routine)
deriving DecidableEq

/-- Where a lookup continues. -/
inductive Prototype where
  | none
  | family (f : Family)
  | object (r : Ref)
deriving DecidableEq

/-- How a template reports what it does: through a logger of its own, which
    hangs below another one and bears a label. The level that its own logger
    got at the start is never looked at. -/
structure Journal where
  label : String
  levelAtStart : Level
  root : Ref
deriving DecidableEq

/-- The state of a template. Only the defaults change, and there is no template
    whose source does not parse. -/
structure Template where
  variant : Variant
  name : String
  source : String
  outline : Outline
  parses : Outline.ofSource? source = .ok outline
  serializer : Option Ref
  dedent : Bool
  defaults : List (String × Value)
  journal : Journal
deriving DecidableEq

/-- What kind of object an object is, and what only that kind holds. -/
inductive Body where
  | record
  /-- The elements; `none` where there is none. -/
  | array (elements : List (Option Value))
  | map (entries : List (Value × Value))
  | set (elements : List Value)
  /-- A date without an instant is invalid. -/
  | date (instant : Option Instant)
  | pattern (p : Pattern) (lastIndex : Value)
  | url (href : String)
  /-- An object around a simple value. -/
  | boxed (v : Value)
  | octets (c : OctetClass) (w : Window UInt8)
  | cells (c : CellClass) (w : Window Number)
  | arrayBuffer (octets : List UInt8)
  | function (p : Procedure)
  /-- What was made as an error remains one, whatever it derives from later. -/
  | error
  /-- A template that nobody has reached into. -/
  | template (t : Template)
deriving DecidableEq

/-- How far an object can be changed: whether it can get more properties, and the
    attributes of what its body gives it as properties, where they are not the
    usual ones. Elements of an array, the length of one and the last index of a
    pattern can have others. -/
structure Integrity where
  extensible : Bool := true
  unusual : List (String × Attributes) := []
deriving DecidableEq

namespace Integrity

/-- What is left when a property is gone. -/
def without (i : Integrity) (name : String) : Integrity :=
  { i with unusual := i.unusual.filter fun e => e.1 ≠ name }

/-- What is left when the elements from an index on are gone. -/
def shortened (i : Integrity) (length : Nat) : Integrity :=
  { i with unusual := i.unusual.filter fun e => (indexOf? e.1).all (· < length) }

end Integrity

/-- An object. -/
structure Object where
  prototype : Prototype
  fields : Keyed Property := []
  integrity : Integrity := {}
  body : Body
deriving DecidableEq

instance : Inhabited Object := ⟨{ prototype := .family .object, body := .record }⟩

/-- The family of the wrapper of a simple value. -/
def Value.wrapper : Value → Family
  | text _ => .string
  | number _ => .number
  | boolean _ => .boolean
  | bigint _ => .bigint
  | symbol _ => .symbol
  | _ => .object

/-- The family that a body belongs to. -/
def Body.family : Body → Family
  | record => .object
  | array _ => .array
  | map _ => .map
  | set _ => .set
  | date _ => .date
  | pattern _ _ => .pattern
  | url _ => .url
  | boxed v => v.wrapper
  | octets c _ => .octets c
  | cells c _ => .cells c
  | arrayBuffer _ => .arrayBuffer
  | function _ => .function
  | error => .error .error
  | template t => .template t.variant

namespace Object

/-- Whether an object can get more properties. -/
def extensible (o : Object) : Bool :=
  o.integrity.extensible

/-- An ordinary object of a kind, as the operations of the kind make it. -/
def ofBody (body : Body) : Object :=
  { prototype := .family body.family, body := body }

/-- A plain object with the given properties. -/
def plain (fields : List (String × Value)) : Object :=
  { prototype := .family .object
    fields := Keyed.ofList (fields.map fun (name, v) => (.text name, { slot := .data v }))
    body := .record }

/-- The function behind where an error was made, which it neither tells nor
    keeps. -/
def traceFunction : Ref := ⟨1⟩

/-- An error. Its properties are not enumerable: where it was made, which is
    not recorded here, and its message. -/
def error (kind : ErrorKind) (message : String) : Object :=
  { prototype := .family (.error kind)
    fields := [
      (.text "stack", { slot := .accessor traceFunction traceFunction, enumerable := false }),
      (.text "message", { slot := .data (.text message), enumerable := false })]
    body := .error }

/-- Whether an object can be called. -/
def isFunction (o : Object) : Bool :=
  match o.body with
  | .function _ => true
  | _ => false

/-- Whether an object is a plain object: nothing stands between it and the
    root prototype, or it has no prototype. -/
def isPlain (o : Object) : Bool :=
  o.prototype == .family .object || o.prototype == .none

/-- The elements of a text as an object exposes them: one for each code
    unit. -/
def textElements (s : String) : List Value :=
  (codeUnits s.toList).map fun u => .text (String.ofList (ofCodeUnits [u]))

/-- The elements that an object exposes under array indices. -/
def indexed (o : Object) : List (Option Value) :=
  match o.body with
  | .array elements => elements
  | .boxed (.text s) => (textElements s).map some
  | .octets .dataView _ => []
  | .octets _ w => w.visible.map fun b => some (.number (Number.ofInt b.toNat))
  | .cells _ w => w.visible.map fun n => some (.number n)
  | _ => []

/-- An element that an object exposes, with its usual attributes: those of a text
    cannot change. -/
def element (o : Object) (v : Value) : Property :=
  match o.body with
  | .boxed _ => { slot := .data v, writable := false, configurable := false }
  | _ => { slot := .data v }

/-- The length of what has one as a property of its own: of an array, which
    can be changed, and of a text. -/
def length? (o : Object) : Option Property :=
  let length (n : Nat) (writable : Bool) : Property := {
    slot := .data (.number (Number.ofInt n))
    enumerable := false
    writable := writable
    configurable := false }
  match o.body with
  | .array elements => some (length elements.length true)
  | .boxed (.text s) => some (length (units s.toList) false)
  | _ => none

/-- The property that the body of an object gives it under a text, with its usual
    attributes. -/
def usualProperty? (o : Object) (name : String) : Option Property :=
  match indexOf? name with
  | some i => ((o.indexed[i]?).join).map o.element
  | none =>
    if name = "length" then o.length?
    else
      match o.body with
      | .pattern _ lastIndex =>
        if name = "lastIndex" then
          some { slot := .data lastIndex, enumerable := false, configurable := false }
        else none
      | .template t =>
        if name = "name" then some { slot := .data (.text t.name) }
        else if name = "source" then some { slot := .data (.text t.source) }
        else none
      | _ => none

/-- A property that the body of an object gives it under a text, with the
    attributes that it has there. -/
def attributed (o : Object) (name : String) (p : Property) : Property :=
  { p with toAttributes := (o.integrity.unusual.lookup name).getD p.toAttributes }

/-- The property that the body of an object gives it under a text. -/
def bodyProperty? (o : Object) (name : String) : Option Property :=
  (o.usualProperty? name).map (o.attributed name)

/-- What an object has under a key itself. -/
def own? (o : Object) (key : Key) : Option Property :=
  match o.fields.get? key with
  | some p => some p
  | none =>
    match key with
    | .symbol _ => none
    | .text name => o.bodyProperty? name

/-- An element as a property that can be enumerated, if it is one. -/
def enumerableElement? (o : Object) (v : Value) (i : Nat) : Option (String × Slot) :=
  let name := String.ofList (Nat.toDigits 10 i)
  if (o.attributed name (o.element v)).enumerable then some (name, .data v) else none

/-- The enumerable properties of an object under texts, in their order. -/
def enumerable (o : Object) : List (String × Slot) :=
  let elements := o.indexed.zipIdx.filterMap fun (element, i) =>
    element.bind fun v => o.enumerableElement? v i
  let fields := o.fields.texts.filterMap fun (name, property) =>
    if property.enumerable then some (name, property.slot) else none
  elements ++ fields

end Object

end Stencil
