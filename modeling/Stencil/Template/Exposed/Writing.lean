import Stencil.Template.Exposed.Basic
import Stencil.Template.Writing

/-!
# Writing and Deriving, Exposed

How an exposed template turns values into text, and what is derived from it.

The source of a template made from outside is a text. What is derived from an
exposed one takes over whatever stands as its source. A value that is no text
has no placeholders, unless it is an object around a text.

## Main definitions

* `Exposed.serialize`: What a template makes of a value.
* `Exposed.write`: What a template makes of the value for a key.
* `Exposed.derive`: A template with another source.
-/

namespace Stencil

namespace Exposed

variable (interp : Interpretation)

/-! ### Writing -/

/-- What the serializer of a template makes of a value. -/
def serializeBase (this v : Value) : Action Value := do
  match ← part interp (← part interp this "options") "serializer" with
  | .undefined | .null =>
    Action.settling (← Action.looking fun st => Serializer.serialize interp st v)
  | serializer =>
    match ← Action.asking fun st => st.functionRef? serializer with
    | some f => callFunction interp f .undefined v
    | none =>
      Action.looking fun _ => Store.notFunction "(this.options.serializer ?? defaultSerializer)"

/-- What a template makes of a value; `what` is what it is called if it has no
    method for that. -/
def serialize (what : String) (this v : Value) : Action Value :=
  invoke interp what this "serialize" (pure [v]) fun f _ => do
    match f with
    | .template .shouting => Action.settling (← Action.looking fun st => st.shouted interp v)
    | .template .quiet =>
      let given ← serializeBase interp this v
      Action.settling (← Action.looking fun st => st.parenthesized interp (.existing given))
    | _ => serializeBase interp this v

/-- Refuse the value for a key. -/
def refuseValue (this key v error : Value) : Action Value := do
  let name ← part interp this "name"
  refuse interp .serialization [key, v, error, name]

/-- What a template makes of the value for a key. -/
def write (this key v : Value) : Action Value :=
  invoke interp "this" this "serializeValue" (pure [key, v]) fun _ _ => do
    match ← (serialize interp "this" this v).attempt with
    | .ok (.text s) => return .text s
    | .ok given =>
      let type ← Action.looking fun st => st.typeName interp given
      let error ← addError .typeError (Template.noText type)
      refuseValue interp this key v error
    | .error (.thrown raised) =>
      let error ← Action.reading fun st => Result.caught interp st raised
      let label ← Action.looking fun st => st.textOf interp key
      debug interp this (Template.failedNote label) none
      refuseValue interp this key v error
    | .error e => Action.fail e

/-! ### Deriving -/

/-- The text of which the placeholders are looked for in a source. -/
def scannedText (st : Store) (source : Value) : String :=
  match source with
  | .text s => s
  | .object r =>
    match (st.get r).body with
    | .boxed (.text s) => s
    | _ => ""
  | _ => ""

/-- Add a template of which the parts are settled one after the other: a source
    that can be any value, and a logger that can be anything that the global one
    gives. -/
def build (variant : Variant) (settings : Settings) (source : Value) : Action Value := do
  let logger ← newLogger interp settings.name
  let _ ← part interp source "length"
  let text ← Action.asking fun st => scannedText st source
  let journal ← Action.asking fun st => st.newJournal settings.name
  let t ← Action.checked (Template.make journal variant settings text)
  let this ← Action.adding fun st =>
    let (st, r) := st.allocate (Object.ofBody (.template t))
    let st := st.expose r
    let o := ((st.get r).assign (.text "source") source).assign (.text "log") logger
    (st.write r o, Value.object r)
  debug interp this (Template.parsedNote t.placeholders.length) (some t.placeholders)
  return this

/-- Add a template with a source and options. -/
def create (variant : Variant) (source options : Value) : Action Value := do
  let settings ← Action.raising fun st => Settings.resolve interp st options
  let orderly ← Action.asking fun st => st.isOrderly Store.globalLogger
  match source with
  | .text s =>
    if orderly then return .object (← Template.add variant settings s).2
    else build interp variant settings source
  | source => build interp variant settings source

/-- The options that a template passes on. -/
def passedOptions (this : Value) : Action Value := do
  let name ← part interp this "name"
  let serializer ← part interp (← part interp this "options") "serializer"
  let dedent ← part interp (← part interp this "options") "dedent"
  Action.adding fun st =>
    st.allocatePlain [("name", name), ("serializer", serializer), ("dedent", dedent)]

/-- A template with another source, derived from a template. -/
def derive (this : Value) (source : Action Value) : Action Value :=
  invoke interp "this" this "derive" (do return [← source]) fun f arguments => do
    let source := arguments.headD .undefined
    match f with
    | .template .shouting => create interp .shouting source (← part interp this "name")
    | _ => create interp .prompt source (← passedOptions interp this)

end Exposed

end Stencil
