import Stencil.Store

/-!
# Declaring Classes

A class is a prototype that knows its constructor, and the constructor knows
its name. An instance then finds the name of its class by looking up
`constructor` and, on it, `name`.

## Main definitions

* `Store.declareClass`: The prototype of a new class.
-/

namespace Stencil

namespace Store

/-- A property that a function has by nature: it cannot be written. -/
def ofFunction (v : Value) (configurable : Bool) : Property :=
  { slot := .data v, enumerable := false, writable := false, configurable := configurable }

/-- The prototype of a new class with a name, derived from a family, and its
    method for JSON if it has one. The name is whatever value the constructor
    has for it. -/
def declareClass (st : Store) (name : Value) (parent : Family) (jsonMethod : Option Ref) :
    Store × Ref :=
  let prototype : Ref := ⟨st.next.index + 1⟩
  let (st, constructor) := st.allocate {
    prototype := .family .function
    fields := [
      (.text "length", ofFunction (.number (Number.ofInt 0)) true),
      (.text "name", ofFunction name true),
      (.text "prototype", ofFunction (.object prototype) false)]
    body := .function .silent }
  let hidden (v : Value) : Property := { slot := .data v, enumerable := false }
  let methods := match jsonMethod with
    | some f => [(Key.text "toJSON", hidden (.object f))]
    | none => []
  st.allocate {
    prototype := .family parent
    fields := (Key.text "constructor", hidden (.object constructor)) :: methods
    body := .record }

/-- A function object with a name. -/
def declareFunction (st : Store) (name : String) (p : Procedure) : Store × Ref :=
  st.allocate {
    prototype := .family .function
    fields := [
      (.text "length", ofFunction (.number (Number.ofInt 0)) true),
      (.text "name", ofFunction (.text name) true)]
    body := .function p }

end Store

end Stencil
