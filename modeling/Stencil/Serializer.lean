import Stencil.Bytes.Base64
import Stencil.Bytes.Utf8
import Stencil.Store.Buffer
import Stencil.Store.Json

/-!
# The Default Serializer

The text that a value is replaced by in a prompt, if a template has no other
way of writing values.

Texts stand for themselves. Simple values, dates, links and objects around
simple values have a canonical text. Arrays of bytes are read as UTF-8 and, if they
are none, written in base64. Arrays, plain objects, maps, sets and objects
with a method `toJSON` are written as JSON. Anything else is refused, since a
prompt should not quietly contain the name of a class.

Inside JSON the policy is stricter than usual: maps and sets are written by
their contents, and what JSON would leave out or write as an empty object is
refused instead.

An object may bring its own version of the method that gives its canonical
text, and then that decides. It need not give a text, so serializing gives an
answer, which for everything else is a text.

## Main definitions

* `Serializer.mapKey`, `Serializer.mapMembers`: A map as members.
* `Serializer.strict`: The policy for structured values.
* `Serializer.canonical?`: The canonical text of an object.
* `Serializer.byteText`: The text of an array of bytes.
* `Serializer.serialize`: The text of a value.
-/

namespace Stencil

namespace Serializer

/-- The error of a value that has no text. -/
def notSerializable (type : String) : Thrown :=
  .fault .typeError ("Object of type " ++ type ++ " is not serializable")

/-- The error of a value that JSON has no form for. -/
def notJson (type : String) : Thrown :=
  .fault .typeError ("Object of type " ++ type ++ " is not JSON serializable")

/-- The name of a member for a key of a map. -/
def mapKey (interp : Interpretation) (st : Store) (key : Value) : Except Thrown String :=
  match key with
  | .text s => .ok s
  | .number n => .ok n.text
  | .boolean b => .ok (if b then "true" else "false")
  | key => do
    let type ← st.typeName interp key
    throw (.fault .typeError ("Map keys must be string, number or boolean, not " ++ type))

/-- The members for the entries of a map. Entries whose names coincide become
    one member, and members have the order of properties. -/
def mapMembers (interp : Interpretation) (st : Store) :
    Keyed Value → List (Value × Value) → Except Thrown (Keyed Value)
  | members, [] => .ok members
  | members, (key, v) :: more => do
    let name ← mapKey interp st key
    mapMembers interp st (members.set (.text name) v) more

/-- Whether an object is around a text, a number or a boolean. -/
def isWrapper (st : Store) (r : Ref) : Bool :=
  st.inherits r .string || st.inherits r .number || st.inherits r .boolean

/-- What a collection contributes: the values of a map under their keys, or the
    elements of a set. -/
def collection (interp : Interpretation) (st : Store) (r : Ref) :
    Except Thrown (Store × Content) :=
  match (st.get r).body with
  | .map entries => do
    let members ← mapMembers interp st [] entries
    return (st, .members none (members.texts.map fun (name, v) => (name, .data v)))
  | .set elements => .ok (st, .items none elements)
  | _ =>
    st.misplaced r
      (if st.inherits r .map then "Map.prototype.entries" else "Set.prototype.values")

/-- What an object around a simple value contributes: the value that it gives
    as its own. -/
def wrapped (interp : Interpretation) (st : Store) (r : Ref) : Except Thrown (Store × Content) := do
  let (st, v) := (← st.invoke interp "item" r "valueOf").settle st
  Store.lenient interp st v

/-- What values contribute to the JSON of a prompt. -/
def strict (interp : Interpretation) : Policy := fun st v =>
  let refused : Except Thrown (Store × Content) := do throw (notJson (← st.typeName interp v))
  match v with
  | .undefined => .ok (st, .nothing)
  | .null => .ok (st, .leaf .null)
  | .boolean b => .ok (st, .leaf (.boolean b))
  | .number n => .ok (st, .leaf (.number n))
  | .bigint n => .ok (st, .leaf (.text (integerText n)))
  | .text s => .ok (st, .leaf (.text s))
  | .symbol _ => refused
  | .object r =>
    let o := st.get r
    match o.body with
    | .function _ => refused
    | .array _ => Store.objectContent interp st r
    | _ =>
      if o.isPlain then Store.objectContent interp st r
      else if st.inherits r .map || st.inherits r .set then collection interp st r
      else if isWrapper st r then wrapped interp st r
      else refused

/-- The compact JSON of a structured value. -/
def structured (interp : Interpretation) (st : Store) (v : Value) : Except Thrown String := do
  match ← st.document? (strict interp) interp v with
  | some j => return String.ofList j.print
  | none =>
    let type ← st.typeName interp v
    throw (.fault .typeError ("Object of type " ++ type ++ " encodes to nothing"))

/-- The octets that can be decoded of an object: those of a view or of a buffer. -/
def encoded? : Body → Option (List UInt8)
  | .octets _ w => some w.visible
  | .arrayBuffer octets => some octets
  | _ => none

/-- The text of an array of bytes: what it says in UTF-8, or else the base64 of what it is
    said to show. For this it is asked where that lies, which it may misrepresent. -/
def byteText (interp : Interpretation) (st : Store) (r : Ref) : Except Thrown String :=
  match (encoded? (st.get r).body).bind Utf8.read? with
  | some cs => .ok (String.ofList cs)
  | none => do
    let (st, source) ← st.read interp r (.text "buffer")
    let (st, offset) ← st.read interp r (.text "byteOffset")
    let (st, length) ← st.read interp r (.text "byteLength")
    return String.ofList (Base64.encode (← st.octetsOf interp source offset length))

/-- The canonical text of an object that has one: of a date, of an object around
    a simple value, of a link. -/
def canonical? (interp : Interpretation) (st : Store) (r : Ref) : Except Thrown (Option Answer) :=
  if st.inherits r .date then do return some (← st.invoke interp "value" r "toISOString")
  else if isWrapper st r then do
    let (st, v) := (← st.invoke interp "value" r "valueOf").settle st
    return some (.existing (.text (← st.describe interp v)))
  else if st.inherits r .url then do
    let (_, href) ← st.read interp r (.text "href")
    return some (.existing href)
  else .ok none

/-- Whether an object has a method for JSON. -/
def hasJsonMethod (interp : Interpretation) (st : Store) (r : Ref) : Except Thrown Bool := do
  return (← st.method? interp r "toJSON").2.isSome

/-- Whether an object is written as JSON. -/
def isStructured (interp : Interpretation) (st : Store) (r : Ref) : Except Thrown Bool :=
  let o := st.get r
  match o.body with
  | .array _ => .ok true
  | _ =>
    if st.inherits r .map || st.inherits r .set || o.isPlain then .ok true
    else hasJsonMethod interp st r

/-- The text of an object without a canonical text. -/
def objectText (interp : Interpretation) (st : Store) (r : Ref) : Except Thrown String :=
  let v := Value.object r
  if st.inherits r (.octets .uint8Array) then byteText interp st r
  else do
    if ← isStructured interp st r then structured interp st v
    else throw (notSerializable (← st.typeName interp v))

/-- The text of a value. -/
def serialize (interp : Interpretation) (st : Store) (v : Value) : Except Thrown Answer :=
  let text (s : String) : Except Thrown Answer := .ok (.existing (.text s))
  match v with
  | .text s => text s
  | .number n => text n.text
  | .boolean b => text (if b then "true" else "false")
  | .bigint n => text (integerText n)
  | .null => do text (← structured interp st .null)
  | .object r =>
    if (st.get r).isFunction then do throw (notSerializable (← st.typeName interp v))
    else do
      match ← canonical? interp st r with
      | none | some (.existing .undefined) => text (← objectText interp st r)
      | some answer => return answer
  | v => do throw (notSerializable (← st.typeName interp v))

end Serializer

end Stencil
