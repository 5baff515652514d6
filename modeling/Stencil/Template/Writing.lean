import Stencil.Serializer
import Stencil.Template.Basic
import Stencil.Template.Statement
import Stencil.Text.Uppercase

/-!
# Writing Values

How a template turns a value into text. A serializer given with the options
replaces the default one; the variant of the template may alter what comes
out.

A serializer is only expected to give a text and may give anything, or raise
anything. Both end in one error that names the key and keeps what was raised
as its cause. Raised values that are no errors become errors that carry their
text, so a cause always has a message; a value without a text is raised as it
is.

## Main definitions

* `Caught`, `Store.causeOf`: What something raised is once it is caught.
* `Template.serialize`: What a template makes of a value.
* `Template.write`: The text of the value for a key.
-/

namespace Stencil

/-- What something raised is once it is caught: a new error, or one that there
    was. -/
inductive Caught where
  | plain (kind : ErrorKind) (message : String)
  | object (r : Ref)
deriving DecidableEq

namespace Store

/-- What something raised is once it is caught. -/
def caught (interp : Interpretation) (st : Store) (raised : Thrown) : Except Thrown Caught :=
  match raised with
  | .fault kind message => .ok (.plain kind message)
  | .value (.object r) => do
    if st.isError (.object r) then return .object r
    else return .plain .error (← st.describe interp (.object r))
  | .value v => do return .plain .error (← st.describe interp v)

/-- The cause that something caught is. -/
def causeOf (interp : Interpretation) (st : Store) (c : Caught) : Except Thrown Cause :=
  match c with
  | .plain kind message => .ok (.plain kind message)
  | .object r => Statement.causeOf interp st (.object r)

/-- What a quiet template makes of what its serializer gave. -/
def parenthesized (interp : Interpretation) (st : Store) (given : Answer) :
    Except Thrown Answer := do
  let (st, v) := given.settle st
  return .existing (.text ("(" ++ (← st.textOf interp v) ++ ")"))

/-- What a shouting template makes of a value. -/
def shouted (interp : Interpretation) (st : Store) (v : Value) : Except Thrown Answer := do
  return .existing (.text (uppercase (← st.describe interp v)))

end Store

namespace Template

/-- What the serializer of a template makes of a value. -/
def serializeBase (interp : Interpretation) (st : Store) (t : Template) (v : Value) :
    Except Thrown Answer :=
  match t.serializer with
  | some f => st.call interp f .undefined v
  | none => Serializer.serialize interp st v

/-- What a template makes of a value. -/
def serialize (interp : Interpretation) (st : Store) (t : Template) (v : Value) :
    Except Thrown Answer :=
  match t.variant with
  | .prompt => t.serializeBase interp st v
  | .quiet => do st.parenthesized interp (← t.serializeBase interp st v)
  | .shouting => st.shouted interp v

/-- The error of the value for a key. It names the type of the value, and
    finding that out may itself fail. -/
def refuse (interp : Interpretation) (t : Template) (key : String) (v : Value) (c : Caught) :
    Action String := do
  let e ← Action.looking fun st => do
    let type ← st.typeName interp v
    let cause ← st.causeOf interp c
    return TemplateError.serialization key type cause t.name
  Action.fail (.template e)

/-- What is said of a serializer that gives something of another type than a
    text. -/
def noText (type : String) : String :=
  "Serializer returned " ++ type ++ " instead of a string"

/-- What is said when the value for a key cannot be written. -/
def failedNote (key : String) : String :=
  "Serialization failed for '" ++ key ++ "'"

/-- The text of the value for a key. -/
def write (interp : Interpretation) (t : Template) (key : String) (v : Value) : Action String := do
  match ← Action.asking fun st => t.serialize interp st v with
  | .ok (.existing (.text s)) => return s
  | .ok answer =>
    let given ← Action.settling answer
    let type ← Action.looking fun st => st.typeName interp given
    t.refuse interp key v (.plain .typeError (noText type))
  | .error raised =>
    let c ← Action.looking fun st => st.caught interp raised
    t.report (failedNote key) none
    t.refuse interp key v c

end Template

end Stencil
