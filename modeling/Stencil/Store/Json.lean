import Stencil.Json
import Stencil.Store.Text

/-!
# Values as JSON

The JSON document that a value stands for.

Writing goes in two steps at each value. First the value may put another in
its place: an object with a method `toJSON` is asked for it, and is told the
key under which it is written. Then a `Policy` says what the value contributes:
nothing, a finished document, or items or members that are written in turn.
Policies differ in what they refuse.

Items and members may belong to an object in the store, and then that object
must not be written inside itself. A policy may also make them up, as it does
for maps; such a collection belongs to nothing, and a cycle that goes through
it is only noticed as recursion without end. Between two visits to the same
object on one path lie at most all other objects, so the allowance that
`Store.depth` computes is used up by infinite descent alone.

## Main definitions

* `Content`, `Policy`: What a value contributes.
* `Store.prepare`: The value that stands in for a value.
* `Store.encode`: The document of a value under a policy.
* `Store.lenient`: The policy that writes every object as its properties.
* `Store.jsonText?`: The compact text under that policy.
-/

namespace Stencil

/-- What a value contributes to a document. -/
inductive Content where
  | nothing
  | leaf (j : Json)
  /-- The items of an array, and the object that they belong to. -/
  | items (owner : Option Ref) (values : List Value)
  /-- The members of an object, and the object that they belong to. -/
  | members (owner : Option Ref) (fields : List (String × Slot))

/-- What values contribute, in the store that holds it. -/
abbrev Policy := Store → Value → Except Thrown (Store × Content)

/-- What stands in for a value: a value, with the store it lives in, or a
    finished document. -/
inductive Prepared where
  | value (st : Store) (v : Value)
  | document (j : Json)

namespace Thrown

/-- An object that would be written inside itself. -/
def circular : Thrown :=
  fault .typeError "Converting circular structure to JSON"

end Thrown

namespace Store

/-- The form in which a date shows itself: what it gives as its text, or null if
    no finite number stands for it. -/
def dateForm (interp : Interpretation) (st : Store) (r : Ref) : Except Thrown Prepared := do
  match ← st.simple interp .number (.object r) with
  | .number .nan | .number (.infinite _) => return .value st .null
  | _ =>
    match ← st.method? interp r "toISOString" with
    | (st, some (.function f)) =>
      let (st, v) := (← st.call interp f (.object r) .undefined).settle st
      return .value st v
    | (st, some (.native m f)) => return .value st (← st.nativeValue r m f)
    | (_, none) => notFunction "toISOString"

/-- The form in which a buffer shows itself: its name, and what it has under its
    indices. -/
def bufferForm (interp : Interpretation) (st : Store) (r : Ref) : Except Thrown Prepared := do
  let (st, elements) ← st.sequence interp (fun st v => st.numberOf interp v) r
  let (st, data) := st.allocateArray elements
  let (st, v) := st.allocatePlain [("type", .text "Buffer"), ("data", data)]
  return .value st v

/-- The form that built-in objects give for JSON: a date its text, a link its
    address, a buffer the list of its octets. -/
def nativeForm (interp : Interpretation) (st : Store) (r : Ref) (f : Family) :
    Except Thrown Prepared :=
  match f, (st.get r).body with
  | .date, _ => st.dateForm interp r
  | .url, .url href => .ok (.value st (.text href))
  | .octets .buffer, .octets _ w =>
    .ok (.document (.object [
      ("type", .text "Buffer"),
      ("data", .array (w.visible.map fun b => .number (Number.ofInt b.toNat)))]))
  | .url, _ => misplacedPart f (.link .href) (st.shown r)
  | _, _ => st.bufferForm interp r

/-- The value that stands in for a value written under a key. -/
def prepare (interp : Interpretation) (st : Store) (key : String) (v : Value) :
    Except Thrown Prepared :=
  match v with
  | .object r => do
    match ← st.method? interp r "toJSON" with
    | (inner, some (.function f)) =>
      let answer ← inner.call interp f v (.text key)
      let (inner, stand) := answer.settle inner
      return .value inner stand
    | (inner, some (.native .json f)) => inner.nativeForm interp r f
    | _ => return .value st v
  | v => .ok (.value st v)

/-- The path to what an owner holds. -/
def enter (path : List Ref) : Option Ref → Except Thrown (List Ref)
  | none => .ok path
  | some r => if r ∈ path then .error .circular else .ok (r :: path)

/-- The documents of items; an item that contributes nothing is null. -/
def encodeItems (encode : String → Value → Except Thrown (Option Json)) :
    Nat → List Value → Except Thrown (List Json)
  | _, [] => .ok []
  | i, v :: more => do
    let item ← encode (indexName i) v
    let items ← encodeItems encode (i + 1) more
    return item.getD .null :: items

/-- The documents of members; a member that contributes nothing is left
    out. -/
def encodeMembers (encode : String → Slot → Except Thrown (Option Json)) :
    List (String × Slot) → Except Thrown (List (String × Json))
  | [] => .ok []
  | (name, slot) :: more => do
    let member ← encode name slot
    let members ← encodeMembers encode more
    return match member with
      | some j => (name, j) :: members
      | none => members

/-- The document of a value written under a key, with an allowance of depth.
    `path` are the objects that it is written inside of. -/
def encode (policy : Policy) (interp : Interpretation) :
    Nat → Store → List Ref → String → Value → Except Thrown (Option Json)
  | 0, _, _, _, _ => .error .tooDeep
  | allowance + 1, st, path, key, v => do
    match ← st.prepare interp key v with
    | .document j => return some j
    | .value st v =>
      match ← policy st v with
      | (_, .nothing) => return none
      | (_, .leaf j) => return some j
      | (st, .items owner values) =>
        let path ← enter path owner
        let items ← encodeItems (encode policy interp allowance st path) 0 values
        return some (.array items)
      | (st, .members owner fields) =>
        let path ← enter path owner
        let receiver := match owner with
          | some r => .object r
          | none => .undefined
        let members ← encodeMembers
          (fun name slot => do
            let (st, v) ← st.readSlot interp receiver slot
            encode policy interp allowance st path name v)
          fields
        return some (.object members)

/-- How deep documents can get without infinite descent. -/
def depth (st : Store) : Nat :=
  (st.objects.size + 2) * (st.objects.size + 2)

/-- The document of a value, if it contributes one. -/
def document? (policy : Policy) (interp : Interpretation) (st : Store) (v : Value) :
    Except Thrown (Option Json) :=
  encode policy interp st.depth st [] "" v

/-- What an object contributes whose properties are its members. A template is
    exposed for that. -/
def membersOf (st : Store) (r : Ref) : Store × Content :=
  let st := st.expose r
  (st, .members (some r) (st.get r).enumerable)

/-- What an object contributes that is an array, is around a simple value, or
    has members. -/
def objectContent (interp : Interpretation) (st : Store) (r : Ref) :
    Except Thrown (Store × Content) :=
  let leaf (j : Json) : Store × Content := (st, .leaf j)
  let v := Value.object r
  match (st.get r).body with
  | .function _ => .ok (st, .nothing)
  | .array _ => do
    let (st, items) ← st.elements interp r
    return (st, .items (some r) items)
  | .boxed (.boolean b) => .ok (leaf (.boolean b))
  | .boxed (.number _) => do return leaf (.number (← st.numberOf interp v))
  | .boxed (.text _) => do return leaf (.text (← st.textOf interp v))
  | .boxed (.bigint _) => mistyped "Do not know how to serialize a BigInt"
  | _ => .ok (st.membersOf r)

/-- Every object is written as its properties, except for arrays and for
    objects around simple values. Functions and symbols contribute nothing,
    and big integers are refused. -/
def lenient (interp : Interpretation) : Policy := fun st v =>
  match v with
  | .undefined | .symbol _ => .ok (st, .nothing)
  | .null => .ok (st, .leaf .null)
  | .boolean b => .ok (st, .leaf (.boolean b))
  | .number n => .ok (st, .leaf (.number n))
  | .bigint _ => mistyped "Do not know how to serialize a BigInt"
  | .text s => .ok (st, .leaf (.text s))
  | .object r => objectContent interp st r

/-- The compact text of a value, if it has one. -/
def jsonText? (interp : Interpretation) (st : Store) (v : Value) :
    Except Thrown (Option String) := do
  let document ← st.document? (lenient interp) interp v
  return document.map fun j => String.ofList j.print

end Store

end Stencil
