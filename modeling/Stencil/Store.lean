import Stencil.Object

/-!
# Stores

All objects there are, by address. Addresses are handed out in ascending
order and never taken back, so whatever was allocated later is not reachable
from what was there before, unless somebody wrote it there.

Two objects are always there: the global logger, below which every template
logs, and the function that errors share.

## Main definitions

* `Store`, `Store.initial`: The objects by address.
* `Store.get`, `Store.allocate`, `Store.write`: The operations.
* `Thrown`: What a computation that does not give a value raises.
* `Answer`: What a call gives.
-/

namespace Stencil

/-- The objects by address. -/
structure Store where
  objects : Array Object := #[]
deriving DecidableEq, Inhabited

namespace Object

/-- A logger, with a level, the label in front of its messages, and perhaps a
    parent. -/
def logger (level label parent : Value) : Object :=
  { prototype := .family .logger
    fields := Keyed.ofList [
      (.text "level", { slot := .data level }),
      (.text "prefix", { slot := .data label }),
      (.text "parent", { slot := .data parent })]
    body := .record }

/-- The value of a property that an object has itself and does not compute. -/
def value? (o : Object) (name : String) : Option Value :=
  match o.own? (.text name) with
  | some { slot := .data v, .. } => some v
  | _ => none

end Object

namespace Store

/-- The global logger. -/
def globalLogger : Ref := ⟨0⟩

/-- The store of a program that has not started yet. -/
def initial : Store where
  objects := #[
    Object.logger (.text Level.info.name) (.text "") .undefined,
    Object.ofBody (.function .silent)]

/-- The object at an address; a plain object without properties where nothing
    was allocated. -/
def get (st : Store) (r : Ref) : Object :=
  (st.objects[r.index]?).getD default

/-- The address of the next object. -/
def next (st : Store) : Ref :=
  ⟨st.objects.size⟩

/-- The store with one more object. -/
def push (st : Store) (o : Object) : Store :=
  { st with objects := st.objects.push o }

/-- Add an object. -/
def allocate (st : Store) (o : Object) : Store × Ref :=
  (st.push o, st.next)

/-- Replace the object at an address. -/
def write (st : Store) (r : Ref) (o : Object) : Store :=
  { st with objects := st.objects.setIfInBounds r.index o }

/-- The template at an address. -/
def template? (st : Store) (r : Ref) : Option Template :=
  match (st.get r).body with
  | .template t => some t
  | _ => none

/-- The function that a value is. -/
def functionRef? (st : Store) : Value → Option Ref
  | .object r => if (st.get r).isFunction then some r else none
  | _ => none

end Store

/-- What a computation raises instead of giving a value: some value, or a new
    error. -/
inductive Thrown where
  | value (v : Value)
  | fault (kind : ErrorKind) (message : String)
deriving DecidableEq

namespace Thrown

/-- Recursion that went on without end. -/
def tooDeep : Thrown :=
  fault .rangeError "Maximum call stack size exceeded"

end Thrown

/-- What a call gives: a value there was, or a new object. -/
inductive Answer where
  | existing (v : Value)
  | fresh (o : Object)
deriving DecidableEq

/-- The answer as a value, in a store that holds it. -/
def Answer.settle (st : Store) : Answer → Store × Value
  | existing v => (st, v)
  | fresh o =>
    let (st, r) := st.allocate o
    (st, .object r)

end Stencil
