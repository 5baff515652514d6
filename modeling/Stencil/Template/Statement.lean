import Stencil.Store.Place
import Stencil.Template.Error

/-!
# Putting Errors Together

Errors made of arbitrary values.

What an error says is a text, so the values that it mentions are converted,
and a conversion can fail; then there is no error of the class but the one of
the conversion. The values themselves go into the details as they are.

## Main definitions

* `Statement.reasonText`: What a value as a reason is called in messages.
* `Statement.listText`: What a value as a list is in messages.
* `Statement.quotation`: How an error is quoted by one in front of it.
* `Statement.make`: The error of a class with arguments.
-/

namespace Stencil

/-- The kind of malformation with a label. -/
def Malformation.ofLabel? (label : String) : Option Malformation :=
  [unclosed, nested, emptyName, invalidName].find? fun m => m.label == label

namespace Statement

/-- The methods that a table of texts has like every object. -/
def tableMethods : List String :=
  ["hasOwnProperty", "isPrototypeOf", "propertyIsEnumerable", "toString", "toLocaleString",
    "valueOf", "__defineGetter__", "__defineSetter__", "__lookupGetter__", "__lookupSetter__"]

/-- What is found in a table of texts under a label that it has no text for. -/
def unlistedText (label : String) : String :=
  let native (name : String) : String := "function " ++ name ++ "() \x7b [native code] \x7d"
  if tableMethods.contains label then native label
  else if label = "constructor" then native "Object"
  else if label = "__proto__" then "[object Object]"
  else "undefined"

/-- What a value as a reason is called in messages. -/
def reasonText (interp : Interpretation) (st : Store) (reason : Value) : Except Thrown String := do
  match ← st.keyOf interp reason with
  | .symbol _ => return "undefined"
  | .text label =>
    return match Malformation.ofLabel? label with
      | some m => m.text
      | none => unlistedText label

/-- What a value as a list is in messages; `what` is what the value is called if
    it is none. -/
def listText (interp : Interpretation) (st : Store) (what : String) (v : Value) :
    Except Thrown String :=
  match v with
  | .object r => do
    let (st, text) := (← st.joinedWith interp what "," r).settle st
    st.textOf interp text
  | .undefined | .null => Store.unreadable v "join"
  | _ => Store.notFunction (what ++ ".join")

/-- How an error is quoted by one in front of it: what its message says. -/
def quotation (interp : Interpretation) (st : Store) (v : Value) : Except Thrown String := do
  let (st, message) ← st.member interp v "message"
  st.textOf interp message

/-- A value as the error behind another one. -/
def causeOf (interp : Interpretation) (st : Store) (v : Value) : Except Thrown Cause := do
  return ⟨.value v, ← quotation interp st v⟩

/-- A text behind the name of the template that it is about, if that counts as
    true. -/
def ownedText (interp : Interpretation) (st : Store) (owner : Value)
    (text : Except Thrown String) : Except Thrown String := do
  if owner.holds then
    let owner ← st.textOf interp owner
    return "[Template: " ++ owner ++ "] " ++ (← text)
  else text

/-- The statement of an error with details. -/
def detailed (st : Store) (kind : ErrorClass) (message : String) (owner : Value)
    (details : List (String × Value)) (cause : Option Cause) : Store × TemplateError :=
  let (st, context) := st.allocatePlain details
  (st, .stated {
    kind := kind
    message := message
    code := (kind.code?.map Value.text).getD .undefined
    owner := if owner.holds then owner else .undefined
    context := context
    cause := cause })

/-- The error of a class with arguments, in the store extended by its
    details. -/
def make (interp : Interpretation) (kind : ErrorClass) (args : List Value) (st : Store) :
    Except Thrown (Store × TemplateError) := do
  let arg (i : Nat) : Value := args.getD i .undefined
  -- Where nothing stands in front of it, an undefined message is an empty one.
  let given (message : Value) : Except Thrown String :=
    if message = .undefined && !(arg 2).holds then .ok "" else st.textOf interp message
  match kind with
  | .general =>
    let message ← ownedText interp st (arg 2) (given (arg 0))
    return (st, .stated {
      kind := .general
      message := message
      code := arg 1
      owner := if (arg 2).holds then arg 2 else .undefined
      context := arg 3 })
  | .config =>
    let message ← if arg 0 = .undefined then .ok "" else st.textOf interp (arg 0)
    return (st, .stated {
      kind := .config
      message := message
      code := (ErrorClass.config.code?.map Value.text).getD .undefined
      owner := .undefined
      context := arg 1 })
  | .malformed =>
    let reason ← reasonText interp st (arg 0)
    let position ← st.textOf interp (arg 2)
    let fragment ← st.textOf interp (arg 1)
    let message ← ownedText interp st (arg 3)
      (.ok (TemplateError.malformedText reason position fragment))
    return detailed st kind message (arg 3)
      [("reason", arg 0), ("fragment", arg 1), ("position", arg 2)] none
  | .invalidKeys =>
    let invalid ← listText interp st "invalidKeys" (arg 0)
    let valid ← listText interp st "validKeys" (arg 1)
    let message ← ownedText interp st (arg 2) (.ok (TemplateError.invalidKeysText invalid valid))
    return detailed st kind message (arg 2) [("invalidKeys", arg 0), ("validKeys", arg 1)] none
  | .missingValues =>
    let names ← listText interp st "missingValues" (arg 0)
    let message ← ownedText interp st (arg 1) (.ok (TemplateError.missingValuesText names))
    return detailed st kind message (arg 1) [("missingValues", arg 0)] none
  | .serialization =>
    let type ← st.typeName interp (arg 1)
    let key ← st.textOf interp (arg 0)
    let cause ← causeOf interp st (arg 2)
    let message ← ownedText interp st (arg 3)
      (.ok (TemplateError.serializationText key type cause.text))
    return detailed st kind message (arg 3) [("key", arg 0), ("valueType", .text type)] (some cause)

end Statement

end Stencil
