import Stencil.Store.Place

/-!
# Writing to Objects

What somebody who holds a value can do to the objects in it: follow a path to
an object and change what it holds.

Setting a property follows the same prototypes as reading one. A property that
is found there has a say: a function that takes a value is called with it; if
there is none, or the property cannot be written, setting fails, and otherwise
the object gets a property of its own. The cells
of a view hold numbers, and what is written to them becomes one. A template is
exposed before it is written to.

The other ways of writing are methods, and an object may have methods of its
own in their place.

## Main definitions

* `Write`, `Written`: The ways of writing, and what a write comes to.
* `Store.set`, `Store.delete`: Setting and deleting a property.
* `Store.mutate`: A write to a place.
-/

namespace Stencil

/-- The ways of writing to an object. -/
inductive Write where
  /-- Set a property. -/
  | set (key : Value) (v : Value)
  /-- Delete a property. -/
  | delete (key : Value)
  /-- Append to an array. -/
  | push (v : Value)
  /-- Set an entry of a map. -/
  | mapSet (key : Value) (v : Value)
  /-- Add to a set. -/
  | add (v : Value)
  /-- Change the instant of a date. -/
  | setTime (v : Value)
deriving DecidableEq

/-- What a write comes to: the store as far as it was written, and what was raised
    then. -/
structure Written where
  store : Store
  raised : Option Thrown := none

/-- A write that is done as a whole or not at all. -/
def Written.whole (before : Store) : Except Thrown Store → Written
  | .ok after => { store := after }
  | .error t => { store := before, raised := some t }

/-- Whether a text is that of a number, as which the cells of a view are
    addressed. -/
def isNumeric (name : String) : Bool :=
  name = "-0" || (Number.read name).text = name

namespace Object

/-- An object with the value of a property changed, or with a new property. A
    known field keeps its attributes; a new one is as open as can be. -/
def assign (o : Object) (key : Key) (v : Value) : Object :=
  match o.fields.get? key with
  | some p => { o with fields := o.fields.set key { p with slot := .data v } }
  | none =>
    let added : Object := { o with fields := o.fields.set key { slot := .data v } }
    match o.body, key.index?, key with
    | .array elements, some i, _ => { o with body := .array (setElement i v elements) }
    | .array elements, none, .text "length" =>
      match v with
      | .number n =>
        let length := (n.truncate?.getD 0).toNat
        { o with
          body := .array (resize length elements)
          integrity := o.integrity.shortened length }
      | _ => o
    | .pattern p _, none, .text "lastIndex" => { o with body := .pattern p v }
    | _, _, _ => added

/-- An object without a property. -/
def without (o : Object) (key : Key) : Object :=
  match o.body, key.index? with
  | .array elements, some i =>
    { o with
      body := .array (elements.set i none)
      integrity := o.integrity.without (indexName i) }
  | _, _ => { o with fields := o.fields.erase key }

/-- Whether the length of an object can be changed. -/
def isResizable (o : Object) : Bool :=
  (o.own? (.text "length")).any fun p => p.writable

/-- Whether an array that cannot change its length would have to for a key. -/
def outgrows (o : Object) (key : Key) : Bool :=
  match o.body, key.index? with
  | .array elements, some i => elements.length ≤ i && !o.isResizable
  | _, _ => false

/-- The last element from an index on that cannot be removed. -/
def lastFixed? (o : Object) (length : Nat) : Option Nat :=
  (List.range o.indexed.length).reverse.find? fun i =>
    length ≤ i && (o.own? (.text (indexName i))).any fun p => !p.configurable

/-- A view with a number written to one of its cells. -/
def withCell (o : Object) (i : Nat) (n : Number) : Object :=
  match o.body with
  | .octets c w => { o with body := .octets c (w.set i (c.hold n)) }
  | .cells c w => { o with body := .cells c (w.set i (c.hold n)) }
  | _ => o

end Object

namespace Store

/-! ### Prototypes -/

/-- Whether a lookup that starts at an object comes to another one, within so
    many prototypes. -/
def comesTo (st : Store) (goal : Ref) : Nat → Ref → Bool
  | 0, _ => false
  | bound + 1, r =>
    r = goal ||
      match (st.get r).prototype with
      | .object next => comesTo st goal bound next
      | _ => false

/-- Let an object have another prototype. What is no object changes nothing. -/
def setPrototype (st : Store) (r : Ref) (v : Value) : Except Thrown Store :=
  let o := st.get r
  let become (p : Prototype) : Except Thrown Store :=
    if o.prototype = p then .ok st
    else if o.extensible then .ok (st.write r { o with prototype := p })
    else mistyped (st.shown r ++ " is not extensible")
  match v with
  | .null => become .none
  | .object next =>
    if st.comesTo r (st.objects.size + 1) next then mistyped "Cyclic __proto__ value"
    else become (.object next)
  | _ => .ok st

/-! ### Setting -/

/-- The error of setting a property that only computes its value. -/
def sealed (st : Store) (key : Key) (holder : Prototype) : Except Thrown Store :=
  mistyped ("Cannot set property " ++ keyText key ++ " of " ++ st.shownHolder holder
    ++ " which has only a getter")

/-- The error of setting a property that cannot be written. -/
def readOnly (key : Key) (kind shown : String) : Except Thrown Store :=
  mistyped ("Cannot assign to read only property '" ++ keyText key ++ "' of " ++ kind ++ " '"
    ++ shown ++ "'")

/-- The error of a property that cannot be removed. -/
def fixed {α : Type} (st : Store) (r : Ref) (name : String) : Except Thrown α :=
  mistyped ("Cannot delete property '" ++ name ++ "' of " ++ st.shown r)

/-- The value that is kept when a property is set to a value: the length of an
    array is a whole number, and no element that stays is beyond it. -/
def kept (interp : Interpretation) (st : Store) (r : Ref) (key : Key) (v : Value) :
    Except Thrown Value :=
  match (st.get r).body with
  | .array _ =>
    if key = .text "length" then do
      let n ← st.numberOf interp v
      match n.toInt? with
      | some length =>
        if 0 ≤ length ∧ length < twoTo 32 then
          match (st.get r).lastFixed? length.toNat with
          | some i => st.fixed r (indexName i)
          | none => return .number n
        else throw (.fault .rangeError "Invalid array length")
      | none => throw (.fault .rangeError "Invalid array length")
    else .ok v
  | _ => .ok v

/-- Give an object the value of a property itself. -/
def define (interp : Interpretation) (st : Store) (r : Ref) (key : Key) (v : Value) :
    Except Thrown Store := do
  let o := st.get r
  if (o.own? key).isSome then return st.write r (o.assign key (← st.kept interp r key v))
  else if !o.extensible then
    mistyped ("Cannot add property " ++ keyText key ++ ", object is not extensible")
  else if o.outgrows key then readOnly (.text "length") "object" (st.shown r)
  else return st.write r (o.assign key (← st.kept interp r key v))

/-- Set a part of a link, given as any value. -/
def setLink (st : Store) (interp : Interpretation) (r : Ref) (p : LinkPart) (v : Value) :
    Except Thrown Store := do
  let o := st.get r
  let become (l : Link) : Store := st.write r { o with body := .url l.href }
  match p, o.body with
  | .href, .url _ =>
    match Link.read? (← st.textOf interp v) with
    | some l => return become l
    | none => mistyped "Invalid URL"
  | .href, _ =>
    let _ ← st.textOf interp v
    misplacedPart .url (.link .scheme) ""
  | p, .url href => return become ((Link.ofHref href).change p (← st.textOf interp v))
  | _, _ => misplacedPart .url (.link .scheme) ""

/-- Set a property that is first found as a member of a family. -/
def setNative (interp : Interpretation) (st : Store) (r : Ref) (key : Key) (v : Value)
    (found : Option Found) : Except Thrown Store :=
  match found with
  | some (.native (.part .next) _) => st.setPrototype r v
  | some (.native (.part (.link p)) holder) =>
    if p = .origin || p = .parameters then st.sealed key holder else st.setLink interp r p v
  | some (.native (.part _) holder) => st.sealed key holder
  | some (.native (.number _) _) => readOnly key "object" (st.shown r)
  | _ => st.define interp r key v

/-- Set a property of an object, having come to a prototype of it. -/
def setFrom (interp : Interpretation) (st : Store) (r : Ref) (key : Key) (v : Value) :
    Nat → Ref → Except Thrown Store
  | 0, _ => .ok st
  | bound + 1, current =>
    let o := st.get current
    if o.isView && isNumeric (keyText key) then do
      let place := key.index?.filter fun i => i < o.indexed.length
      if current = r then
        let n ← st.numberOf interp v
        return match place with
          | some i => st.write r (o.withCell i n)
          | none => st
      else if place.isSome then st.define interp r key v
      else return st
    else
      match o.own? key with
      | some { slot := .accessor _ (some setter), .. } => do
        let _ ← st.call interp setter (.object r) v
        return st
      | some { slot := .accessor _ none, .. } => st.sealed key (.object current)
      | some p =>
        if p.writable then st.define interp r key v
        else readOnly key (if (st.get r).isFunction then "function" else "object") (st.shown r)
      | none =>
        if (o.ownNative? key).isSome then st.define interp r key v
        else
          match o.prototype with
          | .none => st.define interp r key v
          | .family f => setNative interp st r key v (f.find? key)
          | .object next => setFrom interp st r key v bound next

/-- Set a property of an object. -/
def set (interp : Interpretation) (st : Store) (r : Ref) (key : Key) (v : Value) :
    Except Thrown Store :=
  let st := st.opened r
  setFrom interp st r key v (st.objects.size + 1) r

/-- Delete a property of an object. -/
def delete (st : Store) (r : Ref) (key : Key) : Except Thrown Store :=
  let st := st.opened r
  let o := st.get r
  match o.own? key with
  | none => .ok st
  | some p =>
    if p.configurable && !(o.isView && key.index?.isSome) then .ok (st.write r (o.without key))
    else st.fixed r (keyText key)

/-! ### Methods that write -/

/-- The length of what counts as an array, if one more element fits. -/
def lengthForPush (interp : Interpretation) (st : Store) (r : Ref) :
    Except Thrown (Store × Nat) := do
  let (st, length) ← st.read interp r (.text "length")
  let count := lengthOf (← st.numberOf interp length)
  if count = lengthOf (.infinite false) then
    mistyped ("Pushing 1 elements on an array-like of length " ++ indexName count
      ++ " is disallowed by ECMA-262")
  else return (st, count)

/-- Append to what counts as an array by its length alone: first the element is
    set and then the length. -/
def pushTo (interp : Interpretation) (st : Store) (r : Ref) (v : Value) : Written :=
  match st.lengthForPush interp r with
  | .error t => { store := st, raised := some t }
  | .ok (st, count) =>
    match st.set interp r (.text (indexName count)) v with
    | .error t => { store := st, raised := some t }
    | .ok st => .whole st (st.set interp r (.text "length") (countValue (count + 1)))

/-- The place in a view that a value stands for, if so many cells fit behind
    it. -/
def offsetOf (interp : Interpretation) (st : Store) (v : Value) : Except Thrown Nat := do
  let outside : Except Thrown Nat := throw (.fault .rangeError "offset is out of bounds")
  match ← st.numberOf interp v with
  | .infinite _ => outside
  | n =>
    let place := n.truncate?.getD 0
    if place < 0 then outside else return place.toNat

/-- The elements that are written to a view for a value. -/
def cellValues (interp : Interpretation) (st : Store) (v : Value) :
    Except Thrown (Store × List Value) :=
  match v with
  | .object r => st.sequence interp (fun st v => st.numberOf interp v) r
  | .text s => .ok (st, Object.textElements s)
  | .undefined | .null => mistyped "Cannot convert undefined or null to object"
  | _ => .ok (st, [])

/-- Write numbers that values stand for to the cells of a view from a place on, as
    long as they stand for one. -/
def fillCells (interp : Interpretation) (r : Ref) : Store → Nat → List Value → Written
  | st, _, [] => { store := st }
  | st, i, v :: more =>
    match st.numberOf interp v with
    | .error t => { store := st, raised := some t }
    | .ok n => fillCells interp r (st.write r ((st.get r).withCell i n)) (i + 1) more

/-- Write the elements of a value to the cells of a view from a place on. -/
def setCells (interp : Interpretation) (st : Store) (r : Ref) (source place : Value) : Written :=
  let checked : Except Thrown (Store × Nat × List Value) := do
    if !(st.get r).isView then mistyped "this is not a typed array."
    else
      let start ← st.offsetOf interp place
      let (st, values) ← st.cellValues interp source
      if (st.get r).indexed.length < start + values.length then
        throw (.fault .rangeError "offset is out of bounds")
      else return (st, start, values)
  match checked with
  | .error t => { store := st, raised := some t }
  | .ok (st, start, values) => fillCells interp r st start values

/-- Set the instant of a date. -/
def setInstant (interp : Interpretation) (st : Store) (r : Ref) (v : Value) :
    Except Thrown Store := do
  let o := st.get r
  match o.body with
  | .date _ =>
    let n ← st.numberOf interp v
    return st.write r { o with body := .date (Instant.ofNumber? n) }
  | _ => mistyped "this is not a Date object."

/-- The effect of a native method that writes, as a family has it. -/
def nativeWrite (interp : Interpretation) (st : Store) (r : Ref) (m : Method) (w : Write) :
    Written :=
  let o := st.get r
  match m, w, o.body with
  | .setCells, .mapSet source place, _ => setCells interp st r source place
  | _, .push v, .array elements =>
    .whole st (define interp st r (.text (indexName elements.length)) v)
  | _, .push v, _ => st.pushTo interp r v
  | _, .mapSet key v, .map entries =>
    { store := st.write r { o with body := .map (setEntry key v entries) } }
  | _, .mapSet _ _, _ => .whole st (st.misplaced r "Map.prototype.set")
  | _, .add v, .set elements =>
    { store := st.write r { o with body := .set (addElement v elements) } }
  | _, .add _, _ => .whole st (st.misplaced r "Set.prototype.add")
  | _, .setTime v, _ => .whole st (setInstant interp st r v)
  | _, _, _ => { store := st }

/-- The name of the method that a write is, and its first argument. -/
def methodOf : Write → String × Value
  | .set key _ | .delete key => ("", key)
  | .push v => ("push", v)
  | .mapSet key _ => ("set", key)
  | .add v => ("add", v)
  | .setTime v => ("setTime", v)

/-- A write by a method of an object. -/
def callWrite (interp : Interpretation) (st : Store) (r : Ref) (w : Write) : Written :=
  let (name, argument) := methodOf w
  match st.method? interp r name with
  | .ok (st, some (.native m _)) => nativeWrite interp st r m w
  | .ok (inner, some (.function f)) =>
    .whole st ((inner.call interp f (.object r) argument).map fun _ => inner)
  | .ok (_, none) => .whole st (notFunction ("target." ++ name))
  | .error t => { store := st, raised := some t }

/-- Set a property of a simple value, which is never possible. A text has
    properties of its own, and a getter or the prototype can have a say. -/
def setSimple (interp : Interpretation) (st : Store) (target : Value) (key : Key) :
    Except Thrown Store := do
  let type ← st.typeName interp target
  let refused : Except Thrown Store :=
    mistyped ("Cannot create property '" ++ keyText key ++ "' on " ++ type ++ " '"
      ++ shownSimple target ++ "'")
  let own : Bool := match target, key with
    | .text s, .text name => ((Object.ofBody (.boxed (.text s))).own? (.text name)).isSome
    | _, _ => false
  if own then readOnly key type (shownSimple target)
  else
    match target.wrapper.find? key with
    | some (.native (.part .next) _) => return st
    | some (.native (.part _) holder) => st.sealed key holder
    | _ => refused

/-! ### Writes -/

/-- A write to a simple value, which never changes anything. -/
def mutateSimple (interp : Interpretation) (st : Store) (target : Value) (w : Write) :
    Except Thrown Store := do
  match target, w with
  | .undefined, .set key _ | .null, .set key _ =>
    mistyped ("Cannot set properties of " ++ shownSimple target ++ " (setting '"
      ++ keyText (← st.keyOf interp key) ++ "')")
  | .undefined, .delete _ | .null, .delete _ =>
    mistyped "Cannot convert undefined or null to object"
  | .undefined, w | .null, w => unreadable target (methodOf w).1
  | v, .set key _ => setSimple interp st v (← st.keyOf interp key)
  | .text s, .delete key =>
    let key ← st.keyOf interp key
    if ((Object.ofBody (.boxed (.text s))).own? key).isSome then
      mistyped ("Cannot delete property '" ++ keyText key ++ "' of [object String]")
    else return st
  | _, .delete _ => return st
  | _, w => notFunction ("target." ++ (methodOf w).1)

/-- A write to a value. -/
def mutateValue (interp : Interpretation) (st : Store) (target : Value) (w : Write) : Written :=
  match target, w with
  | .object r, .set key v =>
    .whole st (do st.set interp r (← st.keyOf interp key) v)
  | .object r, .delete key => .whole st (do st.delete r (← st.keyOf interp key))
  | .object r, w => callWrite interp st r w
  | v, w => .whole st (mutateSimple interp st v w)

/-! ### Writes to what every program has -/

/-- The text of a function that comes with every program. -/
def builtinText (name : String) : String :=
  "function " ++ name ++ "() \x7b [native code] \x7d"

/-- Whether a constructor has something under a name that cannot be written, apart
    from what every function has. -/
def isConstant (f : Family) (name : String) : Bool :=
  match f.static? name with
  | some (.number _) | some (.symbol _) => true
  | _ => name = "prototype"

/-- Set a property of the prototype of a family. Nothing changes, but what only
    computes its value or cannot be written refuses. -/
def setOnPrototype (st : Store) (f : Family) (key : Key) : Except Thrown Store :=
  match f, key, f.find? key with
  | .string, .text "length", _ => readOnly key "object" (shownFamily f)
  | .function, .text "length", _ | .function, .text "name", _ =>
    readOnly key "function" (builtinText "")
  | _, _, some (.native (.part .next) _) => .ok st
  | _, _, some (.native (.part (.link p)) holder) =>
    if p = .origin || p = .parameters then st.sealed key holder
    else misplacedPart .url (.link .scheme) ""
  | _, _, some (.native (.part _) holder) => st.sealed key holder
  | _, _, some (.native (.number _) _) => readOnly key "object" (shownFamily f)
  | _, _, _ => .ok st

/-- Set a property of something that every program has. -/
def setOnPlace (st : Store) (place : Place) (key : Key) : Except Thrown Store :=
  let isName := key = .text "name" || key = .text "length"
  match place with
  | .maker f =>
    if f.isBuiltin && (isName || isConstant f (keyText key)) then
      readOnly key "function" (builtinText f.name)
    else .ok st
  | .method name _ true =>
    if isName then readOnly key "function" (builtinText name) else .ok st
  | .prototype f => setOnPrototype st f key
  | .parameters _ =>
    if key = .text "size" then
      mistyped "Cannot set property size of #<URLSearchParams> which has only a getter"
    else .ok st
  | _ => .ok st

/-- Delete a property of something that every program has. -/
def deleteOnPlace (st : Store) (place : Place) (key : Key) : Except Thrown Store :=
  match place with
  | .maker f =>
    if f.isBuiltin && isConstant f (keyText key) then
      mistyped ("Cannot delete property '" ++ keyText key ++ "' of " ++ builtinText f.name)
    else .ok st
  | _ => .ok st

/-- Set a parameter of a link. -/
def setParameter (interp : Interpretation) (st : Store) (r : Ref) (key v : Value) :
    Except Thrown Store := do
  let name ← st.textOf interp key
  let text ← st.textOf interp v
  let o := st.get r
  match o.body with
  | .url href =>
    let l := (Link.ofHref href).setParameter name text
    return st.write r { o with body := .url l.href }
  | _ => return st

/-- A write to something that every program has, which is not changed by it, or
    to the parameters of a link. -/
def mutatePlace (interp : Interpretation) (st : Store) (place : Place) (w : Write) :
    Except Thrown Store := do
  match place, w with
  | place, .set key _ => setOnPlace st place (← st.keyOf interp key)
  | place, .delete key => deleteOnPlace st place (← st.keyOf interp key)
  | .parameters r, .mapSet key v => setParameter interp st r key v
  | _, w => notFunction ("target." ++ (methodOf w).1)

/-- A write to the end of a path. -/
def mutate (interp : Interpretation) (st : Store) (place : Place) (w : Write) : Written :=
  match place with
  | .value v => mutateValue interp st v w
  | place => .whole st (mutatePlace interp st place w)

end Store

end Stencil
