import Stencil.Family.Members
import Stencil.Store.Exposure

/-!
# Looking Up Properties

A property that an object does not have itself is looked for along its
prototypes. The built-in families end the search with their native members.
What a native member does depends on the object that it is used on, not on the
one that it was found at.

Objects are told apart by what they derive from, so an object that was given
another prototype counts as something else, and one that was made to derive
from a date counts as a date without being able to tell the time.

## Main definitions

* `Store.find?`: Looking up a key.
* `Store.inherits`, `Store.isError`, `Store.templateRef?`: What an object derives
  from.
* `Store.kindText`: The kind of an object, in brackets.
* `Store.shown`: An object as it is shown in messages.
-/

namespace Stencil

/-- What a lookup ends at, and where. -/
inductive Found where
  | property (p : Property) (holder : Ref)
  | native (n : Native) (holder : Prototype)
deriving DecidableEq

/-- The property of a template that a part of its state is. -/
def Template.partOf? (name : String) : Option Part :=
  match name with
  | "parsed" => some .outline
  | "options" => some .options
  | "storedDefaults" => some .storedDefaults
  | "log" => some .journal
  | _ => none

/-- The member that is found from a family on under a key. -/
def Family.find? (f : Family) (key : Key) : Option Found :=
  match key with
  | .symbol _ => none
  | .text name => (f.native? name).map fun (n, g) => .native n (.family g)

namespace Object

/-- What an object has under a key itself by nature, where the value is not
    kept as one. -/
def ownNative? (o : Object) (key : Key) : Option Native :=
  match o.body, key with
  | .template _, .text name => (Template.partOf? name).map .part
  | _, _ => none

/-- Whether an object is a view with cells. -/
def isView (o : Object) : Bool :=
  match o.body with
  | .octets c _ => c ≠ .dataView
  | .cells _ _ => true
  | _ => false

end Object

namespace Store

/-- Look up a key along at most so many prototypes. -/
def findWithin (st : Store) (key : Key) : Nat → Ref → Option Found
  | 0, _ => none
  | bound + 1, r =>
    let o := st.get r
    match o.own? key, o.ownNative? key with
    | some p, _ => some (.property p r)
    | none, some n => some (.native n (.object r))
    | none, none =>
      match o.prototype with
      | .none => none
      | .family f => f.find? key
      | .object next => findWithin st key bound next

/-- Look up a key. Prototypes form no cycle, so there are fewer of them than
    objects. -/
def find? (st : Store) (r : Ref) (key : Key) : Option Found :=
  findWithin st key (st.objects.size + 1) r

/-- The family that the prototypes of an object end in, if there are at most so
    many. -/
def rootFamilyWithin (st : Store) : Nat → Ref → Option Family
  | 0, _ => none
  | bound + 1, r =>
    match (st.get r).prototype with
    | .none => none
    | .family f => some f
    | .object next => rootFamilyWithin st bound next

/-- The family that the prototypes of an object end in. -/
def rootFamily? (st : Store) (r : Ref) : Option Family :=
  st.rootFamilyWithin (st.objects.size + 1) r

/-- Whether an object is of a family, going by its prototypes. -/
def inherits (st : Store) (r : Ref) (f : Family) : Bool :=
  match st.rootFamily? r with
  | some root => root.isA f
  | none => false

/-- Whether a value is an error. -/
def isError (st : Store) (v : Value) : Bool :=
  match v with
  | .object r => st.inherits r (.error .error)
  | _ => false

/-- The template that a value is. -/
def templateRef? (st : Store) : Value → Option Ref
  | .object r => if st.inherits r (.template .prompt) then some r else none
  | _ => none

/-- Whether the elements of an object can be visited one after the other. -/
def isIterable (st : Store) (r : Ref) : Bool :=
  match st.rootFamily? r with
  | some root => root.isIterable
  | none => false

/-! ### How objects are shown -/

/-- The family that names the kind of a view, whatever it derives from. -/
def viewFamily : OctetClass → Family
  | .buffer => .octets .uint8Array
  | c => .octets c

/-- The name under which the prototypes of an object show its kind. Those of
    views only name objects that are views. -/
def label? (st : Store) (r : Ref) : Option String :=
  match st.rootFamily? r with
  | none => none
  | some root =>
    if root.isA .typedArray then
      match (st.get r).body with
      | .cells c _ => some (Family.cells c).name
      | .octets .dataView _ => none
      | .octets c _ => some (viewFamily c).name
      | _ => none
    else root.label?

/-- The name under which an object shows its kind by nature. -/
def natureLabel : Body → String
  | .array _ => "Array"
  | .date _ => "Date"
  | .pattern _ _ => "RegExp"
  | .boxed (.text _) => "String"
  | .boxed (.number _) => "Number"
  | .boxed (.boolean _) => "Boolean"
  | .function _ => "Function"
  | .error => "Error"
  | _ => "Object"

/-- The kind of an object, in brackets. -/
def kindText (st : Store) (r : Ref) : String :=
  "[object " ++ (st.label? r).getD (natureLabel (st.get r).body) ++ "]"

/-- The name under which an object shows its kind in messages. -/
def messageLabel : Body → String
  | .map _ => "Map"
  | .set _ => "Set"
  | .cells c _ => (Family.cells c).name
  | .octets c _ => (viewFamily c).name
  | .arrayBuffer _ => "ArrayBuffer"
  | body => natureLabel body

/-- The text of a simple value as it is shown in messages. -/
def shownSimple : Value → String
  | .undefined => "undefined"
  | .null => "null"
  | .boolean b => if b then "true" else "false"
  | .number n => n.text
  | .bigint n => integerText n
  | .text s => s
  | .symbol label => "Symbol(" ++ label ++ ")"
  | .object _ => "[object Object]"

/-- What a lookup finds as a text without calling anything; nothing counts as
    the empty text. -/
def shownPart (st : Store) (r : Ref) (name : String) : String :=
  match st.find? r (.text name) with
  | some (.property { slot := .data v, .. } _) => if v = .undefined then "" else shownSimple v
  | some (.native (.text s) _) => s
  | _ => ""

/-- The name of the function that an object has as its constructor. -/
def makerName (st : Store) (r : Ref) : String :=
  match st.find? r (.text "constructor") with
  | some (.native (.maker f) _) => f.name
  | some (.property { slot := .data (.object c), .. } _) =>
    if (st.get c).isFunction then
      match (st.get c).value? "name" with
      | some (.text name) => name
      | _ => ""
    else ""
  | _ => ""

/-- An object as it is shown in messages: an error by its name and its message,
    an object without a text of its own by the name of its constructor, and
    any other by its kind. Nothing is called for it. -/
def shown (st : Store) (r : Ref) : String :=
  let o := st.get r
  let kind := "[object " ++ (st.label? r).getD (messageLabel o.body) ++ "]"
  let asError :=
    let name := st.shownPart r "name"
    let message := st.shownPart r "message"
    if name = "" then message else if message = "" then name else name ++ ": " ++ message
  if o.body = .error then asError
  else
    match st.find? r (.text "toString") with
    | some (.native (.method .text (.error _)) _) => asError
    | some (.native (.method .text .object) _) =>
      let maker := st.makerName r
      if maker = "" then kind else "#<" ++ maker ++ ">"
    | _ => kind

/-- What a family looks like in messages, as the holder of its members. -/
def shownFamily (f : Family) : String :=
  match f.native? "toString" with
  | some (.method .text .object, _) => "#<" ++ f.name ++ ">"
  | _ => "[object " ++ f.label?.getD "Object" ++ "]"

/-- What holds a property, as it is shown in messages. -/
def shownHolder (st : Store) : Prototype → String
  | .none => ""
  | .family f => shownFamily f
  | .object r => st.shown r

/-! ### Errors about types -/

/-- Raise an error about types. -/
def mistyped {α : Type} (message : String) : Except Thrown α :=
  .error (.fault .typeError message)

/-- The error of a native member that is used on an object of another kind. -/
def misplaced {α : Type} (st : Store) (r : Ref) (name : String) : Except Thrown α :=
  mistyped ("Method " ++ name ++ " called on incompatible receiver " ++ st.shown r)

/-- The error of a property that a family computes for its own objects and that
    is read of another one. -/
def misplacedPart {α : Type} (holder : Family) (p : Part) (shown : String) : Except Thrown α :=
  let name := ((holder.parts.find? fun (_, q) => q = p).map Prod.fst).getD ""
  let receiver := " called on incompatible receiver "
  match p, holder with
  | .link .href, _ | .link .query, _ => mistyped "Receiver must be an instance of class URL"
  | .link p, _ =>
    let member := if p = .parameters then "#searchParams" else "#context"
    mistyped ("Cannot read private member " ++ member
      ++ " from an object whose class did not declare it")
  | .description, _ => mistyped "Symbol.prototype.description requires that 'this' be a Symbol"
  | .byteLength, .octets _ =>
    mistyped ("Method get DataView.prototype.byte_length" ++ receiver ++ "undefined")
  | .byteOffset, .octets _ =>
    mistyped ("Method get DataView.prototype.byte_offset" ++ receiver ++ "undefined")
  | .buffer, .octets _ =>
    mistyped ("Method get DataView.prototype.buffer" ++ receiver ++ "undefined")
  | .buffer, _ => mistyped ("Method get %TypedArray%.prototype.buffer" ++ receiver ++ shown)
  | _, .pattern => mistyped ("RegExp.prototype." ++ name ++ " getter called on non-RegExp object")
  | _, holder =>
    mistyped ("Method get " ++ holder.name ++ ".prototype." ++ name ++ receiver ++ shown)

/-- The error of a property that is read of nothing. -/
def unreadable {α : Type} (v : Value) (name : String) : Except Thrown α :=
  mistyped ("Cannot read properties of " ++ shownSimple v ++ " (reading '" ++ name ++ "')")

/-- The error of something that is called and is no function. -/
def notFunction {α : Type} (what : String) : Except Thrown α :=
  mistyped (what ++ " is not a function")

end Store

end Stencil
