import Stencil.Store

/-!
# Interpretations

What is left to others: what calling a function does, and whether an object is one
that was asked for. What is said of all interpretations holds whatever they do.

A function is called with the store at hand, which it may read. It does not change
it and keeps nothing from one call to the next, so it gives the same each time
as long as the store is the same.

Whether an object is one that was asked for is told by a library, which compares it
with a shape: the properties that it has to have, and a schema for the value of each.
What is wrong comes as a list of issues, and otherwise the values are given back.

## Main definitions

* `Schema`, `Shape`: What a value and an object have to be.
* `Checked`: What checking an object comes to.
* `Interpretation`: What is left to others.
-/

namespace Stencil

/-- What a value has to be. -/
inductive Schema where
  | string
  | boolean
  /-- A value that passes a test; otherwise the issue has the given message. -/
  | custom (test : Store → Value → Bool) (message : String)
  /-- What a schema asks for, or nothing. -/
  | optional (inner : Schema)

/-- Whether a value is what a schema asks for. -/
def Schema.accepts (st : Store) : Schema → Value → Bool
  | string, .text _ => true
  | boolean, .boolean _ => true
  | custom test _, v => test st v
  | optional inner, v => v = .undefined || inner.accepts st v
  | _, _ => false

/-- What an object has to be: the keys that it may have, and what the value of each
    has to be. -/
abbrev Shape := List (String × Schema)

/-- Something that is wrong with an object, and where. -/
structure Issue where
  path : List String
  message : String
deriving DecidableEq

/-- What checking an object comes to: the objects that reading its properties made,
    and what is wrong with it, or its values by key. -/
structure Checked where
  made : List Object := []
  outcome : Except (List Issue) (List (String × Value))

/-- What is left to others. -/
structure Interpretation where
  /-- What calling a function does, given the store, the receiver and one argument. -/
  call : Store → Procedure → Value → Value → Except Thrown Answer
  /-- What checking a value for a shape comes to. -/
  check : Store → Shape → Value → Except Thrown Checked

end Stencil
