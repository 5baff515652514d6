import Stencil.Store

/-!
# Exposing Templates

The parts of a template as objects.

As long as nobody has reached into a template, its state is one value, and
only operations on templates change it. Exposing a template makes objects of
the parts of that state and puts them into properties of the template, which
is an ordinary object from then on. Nothing else changes, so it does not matter
when, or whether, a template is exposed.

## Main definitions

* `Store.expose`: The store with the state of a template made of objects.
* `Store.isOrderly`: Whether a logger works as loggers are made to.
* `Store.opened`: The store with an object opened for writing.
-/

namespace Stencil

/-- An object that can be written and extended in every way, with properties in
    the given order. -/
def Object.ofFields (prototype : Prototype) (fields : List (String × Value)) : Object :=
  { Object.plain fields with prototype := prototype }

namespace Store

/-- Add an object as a value. -/
def allocateValue (st : Store) (o : Object) : Store × Value :=
  let (st, r) := st.allocate o
  (st, .object r)

/-- Add an array. -/
def allocateArray (st : Store) (vs : List Value) : Store × Value :=
  st.allocateValue (Object.ofBody (.array (vs.map some)))

/-- Add an array of texts. -/
def allocateTexts (st : Store) (texts : List String) : Store × Value :=
  st.allocateArray (texts.map .text)

/-- Add a plain object. -/
def allocatePlain (st : Store) (fields : List (String × Value)) : Store × Value :=
  st.allocateValue (Object.plain fields)

/-- Add plain objects. -/
def allocatePlains (st : Store) : List (List (String × Value)) → Store × List Value
  | [] => (st, [])
  | fields :: more =>
    let (st, v) := st.allocatePlain fields
    let (st, vs) := allocatePlains st more
    (st, v :: vs)

/-- Add an outline: the placeholders, and the occurrences with their
    positions. -/
def allocateOutline (st : Store) (outline : Outline) : Store × Value :=
  let (st, placeholders) := st.allocateTexts outline.placeholders
  let (st, occurrences) := st.allocatePlains (outline.occurrences.map fun o => [
    ("name", .text o.name),
    ("start", .number (Number.ofInt o.start)),
    ("end", .number (Number.ofInt o.stop))])
  let (st, occurrences) := st.allocateArray occurrences
  st.allocatePlain [("placeholders", placeholders), ("occurrences", occurrences)]

/-- Add settings. -/
def allocateSettings (st : Store) (name : String) (serializer : Option Ref) (dedent : Bool) :
    Store × Value :=
  st.allocatePlain [
    ("name", .text name),
    ("serializer", match serializer with
      | some f => .object f
      | none => .undefined),
    ("dedent", .boolean dedent)]

/-- The properties that the state of a template comes to, in the store extended
    by their values. -/
def allocateState (st : Store) (t : Template) : Store × List (String × Value) :=
  let (st, outline) := st.allocateOutline t.outline
  let (st, options) := st.allocateSettings t.name t.serializer t.dedent
  let (st, defaults) := st.allocateValue
    (Object.ofBody (.map (t.defaults.map fun (name, v) => (.text name, v))))
  let (st, journal) := st.allocateValue
    (Object.logger (.text t.journal.levelAtStart.name) (.text t.journal.label)
      (.object t.journal.root))
  (st, [
    ("name", .text t.name),
    ("source", .text t.source),
    ("parsed", outline),
    ("options", options),
    ("storedDefaults", defaults),
    ("log", journal)])

/-- Make the state of a template properties of it, in the order in which
    templates have them. Any other object stays as it is. -/
def expose (st : Store) (r : Ref) : Store :=
  let o := st.get r
  match o.body with
  | .template t =>
    let (st, state) := st.allocateState t
    st.write r (Object.ofFields o.prototype state)
  | _ => st

/-- The text that an object has as the value of a property, if it is one. -/
def textAt (st : Store) (r : Ref) (name : String) : String :=
  match (st.get r).value? name with
  | some (.text s) => s
  | _ => ""

/-- The label that a logger gives to those below it. -/
def labelOf (st : Store) (r : Ref) : String :=
  st.textAt r "prefix"

/-- The level that is written at a logger. -/
def levelAt (st : Store) (r : Ref) : Level :=
  Level.ofName (st.textAt r "level")

/-! ### Loggers -/

/-- Whether an object is one of the loggers that there are. -/
def isLogger (st : Store) (r : Ref) : Bool :=
  (st.get r).prototype = .family .logger

/-- Whether a logger works as loggers are made to: with a level and a label that
    are texts, without a parent, and with nothing of its own besides. -/
def isOrderly (st : Store) (r : Ref) : Bool :=
  let o := st.get r
  let isText (name : String) : Bool :=
    match o.value? name with
    | some (.text _) => true
    | _ => false
  st.isLogger r && o.fields.length = 3 && isText "level" && isText "prefix"
    && o.value? "parent" = some .undefined

/-- The store with another level of the global logger. -/
def configure (st : Store) (level : String) : Store :=
  let o := st.get globalLogger
  st.write globalLogger
    { o with fields := o.fields.set (.text "level") { slot := .data (.text level) } }

/-- The store with all templates exposed, given the addresses to look at. -/
def exposeEach (st : Store) : List Ref → Store
  | [] => st
  | r :: more => exposeEach (st.expose r) more

/-- The store with an object opened for writing. A template is exposed. If it is
    a logger, all templates are, because any of them could report through it: one
    that is not exposed reports through an orderly logger. -/
def opened (st : Store) (r : Ref) : Store :=
  if st.isLogger r then st.exposeEach ((List.range st.objects.size).map Ref.mk)
  else st.expose r

end Store

end Stencil
