import Stencil.Collection
import Stencil.Interpretation
import Stencil.Link.Part
import Stencil.Store.Lookup

/-!
# Reading Properties

A property may compute its value, so reading one can raise an error, and a
computed value may be a new object, so reading one returns the store it lives
in. That store differs from the given one by objects that nothing else refers
to, and by templates that reading a part of them has exposed.

## Main definitions

* `Store.read`: The value of a property of an object.
* `Store.member`: The value of a property of any value.
* `Store.visit`: The elements of a value, one after the other.
* `Store.entries`: The enumerable properties of a value.
* `Store.method?`, `Store.invoke`: Methods, and calling them.
* `Store.typeName`: The name of the type of a value.
-/

namespace Stencil

/-- The name of an array index. -/
def indexName (i : Nat) : String :=
  String.ofList (Nat.toDigits 10 i)

/-- A way of reading properties of objects. -/
abbrev Reader := Store → Ref → Key → Except Thrown (Store × Value)

/-- What a text has as a property. -/
def textMember (s : String) (key : Key) : Value :=
  ((Object.ofBody (.boxed (.text s))).value? (match key with
    | .text name => name
    | .symbol _ => "")).getD .undefined

namespace Store

/-- The number of a simple value. A symbol and a big integer have none. -/
def simpleNumber : Value → Except Thrown Number
  | .undefined | .object _ => .ok .nan
  | .null => .ok (Number.ofInt 0)
  | .boolean b => .ok (Number.ofInt (if b then 1 else 0))
  | .number n => .ok n
  | .bigint _ => .error (.fault .typeError "Cannot convert a BigInt value to a number")
  | .text s => .ok (Number.read s)
  | .symbol _ => .error (.fault .typeError "Cannot convert a Symbol value to a number")

/-- The length that a number stands for. -/
def lengthOf (n : Number) : Nat :=
  match n with
  | .infinite false => twoTo 53 - 1
  | n => (n.truncate?.getD 0).toNat

end Store

namespace Reader

variable (read : Reader)

/-- The value of a property of any value. -/
def member (st : Store) (v : Value) (name : String) : Except Thrown (Store × Value) :=
  match v with
  | .object r => read st r (.text name)
  | .undefined | .null => Store.unreadable v name
  | .text s => .ok (st, textMember s (.text name))
  | _ => .ok (st, .undefined)

/-- The elements of an array from an index on. What is missing is looked up
    like any other property. -/
def elementsFrom (r : Ref) : Store → Nat → List (Option Value) → Except Thrown (Store × List Value)
  | st, _, [] => .ok (st, [])
  | st, i, some v :: more => do
    let (st, vs) ← elementsFrom r st (i + 1) more
    return (st, v :: vs)
  | st, i, none :: more => do
    let (st, v) ← read st r (.text (indexName i))
    let (st, vs) ← elementsFrom r st (i + 1) more
    return (st, v :: vs)

/-- The elements that an object exposes under array indices. -/
def elements (st : Store) (r : Ref) : Except Thrown (Store × List Value) :=
  read.elementsFrom r st 0 (st.get r).indexed

/-- What an object has under the indices up to its length. -/
def sequence (st : Store) (r : Ref) : Except Thrown (Store × List Value) := do
  let (st, length) ← read st r (.text "length")
  let count := Store.lengthOf (← Store.simpleNumber length)
  read.elementsFrom r st 0 (List.replicate count none)

/-- The entries of a map as arrays of two. -/
def entryArrays (st : Store) (entries : List (Value × Value)) : Store × List Value :=
  entries.foldl
    (fun (st, pairs) (k, v) =>
      let (st, pair) := st.allocateArray [k, v]
      (st, pairs ++ [pair]))
    (st, [])

/-- The characters of a text, each as a text. -/
def characters (s : String) : List Value :=
  s.toList.map fun c => .text (String.singleton c)

/-- The elements of an object of a kind whose elements can be visited. -/
def visitObject (st : Store) (r : Ref) : Except Thrown (Store × List Value) :=
  let o := st.get r
  if st.inherits r .array then
    match o.body with
    | .array _ => read.elements st r
    | _ => read.sequence st r
  else if st.inherits r .typedArray then
    if o.isView then read.elements st r else Store.mistyped "this is not a typed array."
  else
    match o.body with
    | .map entries =>
      if st.inherits r .map then .ok (entryArrays st entries)
      else st.misplaced r "Set.prototype.values"
    | .set elements =>
      if st.inherits r .set then .ok (st, elements)
      else st.misplaced r "Map.prototype.entries"
    | .boxed (.text s) => .ok (st, characters s)
    | _ =>
      st.misplaced r
        (if st.inherits r .map then "Map.prototype.entries" else "Set.prototype.values")

/-- The elements of a value, one after the other; what has none is refused in
    the given words. -/
def visit (st : Store) (refusal : String) (v : Value) : Except Thrown (Store × List Value) :=
  match v with
  | .text s => .ok (st, characters s)
  | .object r => if st.isIterable r then read.visitObject st r else Store.mistyped refusal
  | _ => Store.mistyped refusal

/-- The refusal of a value of which a collection cannot be made. -/
def noElements (st : Store) (v : Value) : String :=
  let what := match v with
    | .undefined => "undefined"
    | .null => "object null"
    | .boolean b => if b then "boolean true" else "boolean false"
    | .number n => "number " ++ n.text
    | .bigint _ => "bigint"
    | .text s => "string \"" ++ s ++ "\""
    | .symbol _ => "symbol"
    | .object r => if (st.get r).isFunction then "function" else "object"
  what ++ " is not iterable (cannot read property Symbol(Symbol.iterator))"

/-- The elements of a set that is made of a value, or of nothing. -/
def setElements (st : Store) (v : Value) : Except Thrown (Store × List Value) :=
  match v with
  | .undefined | .null => .ok (st, [])
  | v => do
    let (st, elements) ← read.visit st (noElements st v) v
    return (st, elementsOf elements)

/-- The entries of a map of which some are put in by what counts as pairs. -/
def putPairs : Store → List (Value × Value) → List Value →
    Except Thrown (Store × List (Value × Value))
  | st, entries, [] => .ok (st, entries)
  | st, entries, .object p :: more => do
    let (st, key) ← read st p (.text (indexName 0))
    let (st, v) ← read st p (.text (indexName 1))
    putPairs st (setEntry key v entries) more
  | _, _, v :: _ =>
    Store.mistyped ("Iterator value " ++ Store.shownSimple v ++ " is not an entry object")

/-- The entries of a map that is made of a value: of another map, of pairs, or of
    nothing. -/
def mapEntries (st : Store) (v : Value) : Except Thrown (Store × List (Value × Value)) :=
  let made : Except Thrown (Store × List (Value × Value)) := do
    let (st, pairs) ← read.visit st (noElements st v) v
    read.putPairs st [] pairs
  match v with
  | .undefined | .null => .ok (st, [])
  | .object r =>
    match (st.get r).body with
    | .map entries => if st.inherits r .map then .ok (st, entries) else made
    | _ => made
  | _ => made

/-- The elements of a value, each taken apart into the first two of its own. -/
def pairs (st : Store) (refusal : String) (v : Value) :
    Except Thrown (Store × List (Value × Value)) := do
  let (st, elements) ← read.visit st refusal v
  elements.foldlM
    (fun (st, pairs) element => do
      let (st, parts) ← read.visit st ".for is not iterable" element
      return (st, pairs ++ [(parts.getD 0 .undefined, parts.getD 1 .undefined)]))
    (st, [])

end Reader

namespace Store

/-! ### Calls -/

/-- Call a function object. -/
def call (st : Store) (interp : Interpretation) (f : Ref) (receiver argument : Value) :
    Except Thrown Answer :=
  match (st.get f).body with
  | .function p => interp.call st p receiver argument
  | _ => mistyped "not a function"

/-- The value that a slot has for a receiver. Without a function that computes
    one there is none. -/
def readSlot (st : Store) (interp : Interpretation) (receiver : Value) :
    Slot → Except Thrown (Store × Value)
  | .data v => .ok (st, v)
  | .accessor (some getter) _ => do
    return (← st.call interp getter receiver .undefined).settle st
  | .accessor none _ => .ok (st, .undefined)

/-! ### Computed properties -/

/-- The number of milliseconds of an instant. -/
def milliseconds : Option Instant → Value
  | some t => .number (Number.ofInt t)
  | none => .number .nan

/-- A count as a value. -/
def countValue (n : Nat) : Value :=
  .number (Number.ofInt n)

/-- The length, the offset and the width of the cells of a view. -/
def extent? : Body → Option (Nat × Nat × Nat)
  | .octets _ w => some (w.length, w.offset, 1)
  | .cells c w => some (w.length, w.offset, (Family.cells c).cellWidth?.getD 1)
  | _ => none

/-- The octets of the buffer that a view is on. -/
def bufferOctets : Body → List UInt8
  | .octets _ w => w.buffer
  | .cells c w => List.replicate (w.buffer.length * (Family.cells c).cellWidth?.getD 1) 0
  | _ => []

/-- The value of a property that is computed from a view. -/
def viewPart? (st : Store) (p : Part) (body : Body) : Option (Store × Value) :=
  match p, extent? body with
  | .length, some (length, _, _) => some (st, countValue length)
  | .byteLength, some (length, _, width) => some (st, countValue (length * width))
  | .byteOffset, some (_, offset, width) => some (st, countValue (offset * width))
  | .buffer, some _ => some (st.allocateValue (Object.ofBody (.arrayBuffer (bufferOctets body))))
  | _, _ => none

/-- The value of a property that a family computes from bodies of its own
    kind. -/
def bodyPart? (st : Store) (holder : Family) (p : Part) (body : Body) : Option (Store × Value) :=
  match holder, p, body with
  | .url, .link .parameters, .url _ => some (st.allocatePlain [])
  | .url, .link p, .url href => some (st, .text ((Link.ofHref href).part p))
  | .pattern, .source, .pattern p _ => some (st, .text p.source)
  | .pattern, .flag c, .pattern p _ => some (st, .boolean (p.flags.toList.contains c))
  | .map, .size, .map entries => some (st, countValue entries.length)
  | .set, .size, .set elements => some (st, countValue elements.length)
  | .symbol, .description, .boxed (.symbol label) => some (st, .text label)
  | .arrayBuffer, .byteLength, .arrayBuffer octets
  | .arrayBuffer, .maxByteLength, .arrayBuffer octets => some (st, countValue octets.length)
  | .arrayBuffer, .resizable, .arrayBuffer _ | .arrayBuffer, .detached, .arrayBuffer _ =>
    some (st, .boolean false)
  | .octets .dataView, p, .octets .dataView w => st.viewPart? p (.octets .dataView w)
  | .typedArray, _, .octets .dataView _ => none
  | .typedArray, p, body => st.viewPart? p body
  | _, _, _ => none

/-- The value of a property that a family computes from the body of an object.
    It has none for bodies of another kind. -/
def bodyPart (st : Store) (r : Ref) (p : Part) (holder : Prototype) :
    Except Thrown (Store × Value) :=
  match holder with
  | .family f =>
    match st.bodyPart? f p (st.get r).body with
    | some result => .ok result
    | none => misplacedPart f p (st.shown r)
  | _ => .ok (st, .undefined)

/-- The flags of a pattern, as it says whether it has them. -/
def flagsPart (read : Reader) (st : Store) (r : Ref) : Except Thrown (Store × Value) := do
  let (st, flags) ← Family.pattern.parts.foldlM
    (fun (st, flags) (name, p) =>
      match p with
      | .flag c => do
        let (st, v) ← read st r (.text name)
        return (st, if v.holds then flags ++ [c] else flags)
      | _ => .ok (st, flags))
    (st, [])
  return (st, .text (String.ofList flags))

/-- The value of the property that the next object of a lookup is. -/
def nextPart (st : Store) (r : Ref) : Value :=
  match (st.get r).prototype with
  | .object next => .object next
  | .none => .null
  | .family _ => .undefined

/-- A part of the state of a template, which is exposed by that. -/
def statePart (st : Store) (holder : Prototype) (name : String) : Store × Value :=
  match holder with
  | .object r =>
    let st := st.expose r
    (st, ((st.get r).value? name).getD .undefined)
  | _ => (st, .undefined)

/-- The placeholders of a template in a new array. -/
def placeholdersPart (read : Reader) (st : Store) (r : Ref) : Except Thrown (Store × Value) :=
  match (st.get r).body with
  | .template t => .ok (st.allocateTexts t.outline.placeholders)
  | _ => do
    let (st, parsed) ← read st r (.text "parsed")
    let (st, names) ← read.member st parsed "placeholders"
    let (st, names) ← read.visit st "this.parsed.placeholders is not iterable" names
    return st.allocateArray names

/-- The defaults of a template in a new map. -/
def defaultsPart (read : Reader) (st : Store) (r : Ref) : Except Thrown (Store × Value) :=
  match (st.get r).body with
  | .template t =>
    .ok (st.allocateValue (Object.ofBody (.map (t.defaults.map fun (name, v) => (.text name, v)))))
  | _ => do
    let (st, stored) ← read st r (.text "storedDefaults")
    let (st, entries) ← read.mapEntries st stored
    return st.allocateValue (Object.ofBody (.map entries))

/-- The value of a native property of an object. -/
def readPart (read : Reader) (st : Store) (r : Ref) (p : Part) (holder : Prototype) :
    Except Thrown (Store × Value) :=
  match p with
  | .next => .ok (st, st.nextPart r)
  | .outline => .ok (st.statePart holder "parsed")
  | .options => .ok (st.statePart holder "options")
  | .storedDefaults => .ok (st.statePart holder "storedDefaults")
  | .journal => .ok (st.statePart holder "log")
  | .placeholders => st.placeholdersPart read r
  | .defaults => st.defaultsPart read r
  | .flags => st.flagsPart read r
  | p => st.bodyPart r p holder

/-- The value of a property, where computed properties lead to others at most
    so deep. -/
def readWithin (interp : Interpretation) : Nat → Reader
  | 0, _, _, _ => .error .tooDeep
  | bound + 1, st, r, key =>
    match st.find? r key with
    | some (.property p _) => st.readSlot interp (.object r) p.slot
    | some (.native (.text s) _) => .ok (st, .text s)
    | some (.native (.number n) _) => .ok (st, countValue n)
    | some (.native (.part p) holder) => st.readPart (readWithin interp bound) r p holder
    | _ => .ok (st, .undefined)

/-- The value of a property; `undefined` if there is none. -/
def read (st : Store) (interp : Interpretation) (r : Ref) (key : Key) :
    Except Thrown (Store × Value) :=
  readWithin interp (st.objects.size + 2) st r key

/-- Reading properties under an interpretation. -/
def reader (interp : Interpretation) : Reader :=
  fun st r key => st.read interp r key

/-- The value of a property of any value. -/
def member (st : Store) (interp : Interpretation) (v : Value) (name : String) :
    Except Thrown (Store × Value) :=
  (reader interp).member st v name

/-- The elements of a value, one after the other; what has none is refused in
    the given words. -/
def visit (st : Store) (interp : Interpretation) (refusal : String) (v : Value) :
    Except Thrown (Store × List Value) :=
  (reader interp).visit st refusal v

/-- The elements that an object exposes under array indices. -/
def elements (st : Store) (interp : Interpretation) (r : Ref) :
    Except Thrown (Store × List Value) :=
  (reader interp).elements st r

/-! ### Enumerable properties -/

/-- Read slots of an object one after the other. -/
def readAll (interp : Interpretation) (r : Ref) (st : Store) :
    List (String × Slot) → Except Thrown (Store × List (String × Value))
  | [] => .ok (st, [])
  | (name, slot) :: more => do
    let (st, v) ← st.readSlot interp (.object r) slot
    let (st, rest) ← readAll interp r st more
    return (st, (name, v) :: rest)

/-- The enumerable properties of a value under texts, with their values. A text
    has its elements. -/
def entries (st : Store) (interp : Interpretation) (v : Value) :
    Except Thrown (Store × List (String × Value)) :=
  match v with
  | .object r =>
    let st := st.expose r
    readAll interp r st (st.get r).enumerable
  | .text s => .ok (st, (Object.textElements s).zipIdx.map fun (v, i) => (indexName i, v))
  | .undefined | .null => mistyped "Cannot convert undefined or null to object"
  | _ => .ok (st, [])

/-! ### Methods -/

/-- What an object has as a method: a function, or a native one as some family
    has it. -/
inductive Callee where
  | function (f : Ref)
  | native (m : Method) (f : Family)

/-- The method that an object has under a name. -/
def method? (st : Store) (interp : Interpretation) (r : Ref) (name : String) :
    Except Thrown (Store × Option Callee) :=
  match st.find? r (.text name) with
  | some (.property p _) => do
    let (st, v) ← st.readSlot interp (.object r) p.slot
    return (st, (st.functionRef? v).map .function)
  | some (.native (.method m f) _) => .ok (st, some (.native m f))
  | _ => .ok (st, none)

/-- The method that any value has under a name. -/
def methodOf? (st : Store) (interp : Interpretation) (v : Value) (name : String) :
    Except Thrown (Store × Option Callee) :=
  match v with
  | .object r => st.method? interp r name
  | .undefined | .null => unreadable v name
  | v =>
    .ok (st, match v.wrapper.native? name with
      | some (.method m f, _) => some (.native m f)
      | _ => none)

/-- The value that a native method gives for an object which has the state that
    the method is about. -/
def nativeValue (st : Store) (r : Ref) (m : Method) (f : Family) : Except Thrown Value :=
  let noDate : Except Thrown Value := mistyped "this is not a Date object."
  match m, f, (st.get r).body with
  | .value, .object, _ => .ok (.object r)
  | .value, .date, .date instant | .time, _, .date instant => .ok (milliseconds instant)
  | .value, .date, _ | .time, _, _ => noDate
  | .value, f, .boxed v =>
    if v.wrapper = f then .ok v
    else mistyped (f.name ++ ".prototype.valueOf requires that 'this' be a " ++ f.name)
  | .value, f, _ => mistyped (f.name ++ ".prototype.valueOf requires that 'this' be a " ++ f.name)
  | .iso, _, .date (some t) => .ok (.text t.text)
  | .iso, _, .date none => .error (.fault .rangeError "Invalid time value")
  | .iso, _, _ => noDate
  | _, f, _ => st.misplaced r (f.name ++ ".prototype")

/-- What a method of an object without arguments gives; `subject` is what the
    object is called if it has no such method. -/
def invoke (st : Store) (interp : Interpretation) (subject : String) (r : Ref) (name : String) :
    Except Thrown Answer := do
  match ← st.method? interp r name with
  | (st, some (.function f)) => st.call interp f (.object r) .undefined
  | (st, some (.native m f)) => return .existing (← st.nativeValue r m f)
  | (_, none) => notFunction (subject ++ "." ++ name)

/-! ### Names of types -/

/-- What an object has as the name of its constructor, if it has a
    constructor. -/
def makerNameValue? (st : Store) (interp : Interpretation) (r : Ref) :
    Except Thrown (Store × Option Value) :=
  match st.find? r (.text "constructor") with
  | some (.native (.maker f) _) => .ok (st, some (.text f.name))
  | some (.property p _) => do
    let (st, v) ← st.readSlot interp (.object r) p.slot
    if v = .undefined || v = .null then return (st, none)
    else
      let (st, name) ← st.member interp v "name"
      return (st, some name)
  | _ => .ok (st, none)

/-- A name, or the name of plain objects where there is none. -/
def nameOrObject : Option Value → String
  | some (.text name) => if name = "" then "Object" else name
  | _ => "Object"

/-- The name of the constructor that a lookup on an object finds. -/
def constructorName (st : Store) (interp : Interpretation) (r : Ref) : Except Thrown String := do
  return nameOrObject (← st.makerNameValue? interp r).2

/-- The name of the type of a value: for an object, the name of its
    constructor. -/
def typeName (st : Store) (interp : Interpretation) : Value → Except Thrown String
  | .undefined => .ok "undefined"
  | .null => .ok "null"
  | .boolean _ => .ok "boolean"
  | .number _ => .ok "number"
  | .bigint _ => .ok "bigint"
  | .text _ => .ok "string"
  | .symbol _ => .ok "symbol"
  | .object r =>
    let o := st.get r
    if o.isFunction then .ok "Function"
    else if o.prototype = .none then .ok "Object"
    else st.constructorName interp r

/-- The name of the class of an object: that of the constructor on its
    prototype. -/
def className (st : Store) (interp : Interpretation) (o : Object) : String :=
  match o.prototype with
  | .none => "Object"
  | .family f => f.name
  | .object r =>
    match st.constructorName interp r with
    | .ok name => name
    | .error _ => "Object"

end Store

end Stencil
