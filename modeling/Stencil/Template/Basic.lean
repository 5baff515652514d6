import Stencil.Splice
import Stencil.Template.Action
import Stencil.Template.Settings

/-!
# Making Templates

A template is made from a source and settings, and there is no template whose
source does not parse. What is derived from a template keeps its settings, as
far as its variant passes them on.

Values come to a template as the entries of an object. An entry without a
value counts as absent, so that leaving a key out and setting it to
`undefined` are the same.

## Main definitions

* `Template.make`: A template from a source and settings.
* `Template.derivedVariant`, `Template.derivedSettings`: What is passed on.
* `Template.add`, `Template.derive`: A new template in a store, and one with another
  source.
* `Store.supplied`: The entries that an object supplies.
* `Template.unknownKeys`, `Template.checkKeys`: Supplied keys that name no
  placeholder.
* `Template.equals`: Equality of templates.
-/

namespace Stencil

/-- The label under which a template with a name reports. -/
def Journal.labelFor (name : String) : String :=
  if name = "" then "[template]" else "[template:" ++ name ++ "]"

namespace Store

/-- The journal of a new template with a name. It hangs below the global
    logger. -/
def newJournal (st : Store) (name : String) : Journal :=
  { label := Logger.labelled (st.labelOf globalLogger) (Journal.labelFor name)
    levelAtStart := st.levelAt globalLogger
    root := globalLogger }

/-- The entries that an object supplies: those that have a value. -/
def supplied (interp : Interpretation) (st : Store) (values : Value) :
    Except Thrown (Store × List (String × Value)) := do
  let (st, entries) ← st.entries interp values
  return (st, entries.filter fun (_, v) => v ≠ .undefined)

end Store

namespace Template

/-- The distinct placeholders of a template in order of first occurrence. -/
def placeholders (t : Template) : List String :=
  t.outline.placeholders

/-- The settings that a template was made with. -/
def settings (t : Template) : Settings :=
  ⟨t.name, t.serializer, t.dedent⟩

/-- A template without defaults, if its source parses. -/
def make (journal : Journal) (variant : Variant) (settings : Settings) (source : String) :
    Except TemplateError Template :=
  match parses : Outline.ofSource? source with
  | .error m => .error (.malformed m settings.name)
  | .ok outline => .ok {
      variant := variant
      name := settings.name
      source := source
      outline := outline
      parses := parses
      serializer := settings.serializer
      dedent := settings.dedent
      defaults := []
      journal := journal }

/-- The variant of what is derived from a template. -/
def derivedVariant (t : Template) : Variant :=
  match t.variant with
  | .shouting => .shouting
  | .prompt | .quiet => .prompt

/-- The settings of what is derived from a template: a shouting template
    passes on its name alone. -/
def derivedSettings (t : Template) : Settings :=
  match t.variant with
  | .shouting => { name := t.name }
  | .prompt | .quiet => t.settings

/-- Report something about a template, with the names it is about. -/
def report (t : Template) (message : String) (names : Option (List String)) : Action Unit :=
  Action.report fun st =>
    { level := st.levelAt t.journal.root
      label := t.journal.label
      message := message
      names := names }

/-- The keys that name no placeholder. -/
def unknownKeys (t : Template) (keys : List String) : List String :=
  keys.filter fun key => !t.placeholders.contains key

/-- Refuse keys that name no placeholder, all of them at once. -/
def checkKeys (t : Template) (keys : List String) : Except TemplateError Unit :=
  if t.unknownKeys keys = [] then .ok ()
  else .error (.invalidKeys (t.unknownKeys keys) t.placeholders t.name)

/-- Templates are equal if they agree in name and source. -/
def equals (t u : Template) : Bool :=
  t.name == u.name && t.source == u.source

/-- What is said when the placeholders of a source were found. -/
def parsedNote (count : Nat) : String :=
  "Parsed " ++ String.ofList (Nat.toDigits 10 count) ++ " placeholder(s)"

/-- Add a template with a source and settings. -/
def add (variant : Variant) (settings : Settings) (source : String) : Action (Template × Ref) := do
  let journal ← Action.asking fun st => st.newJournal settings.name
  let t ← Action.checked (make journal variant settings source)
  t.report (parsedNote t.placeholders.length) (some t.placeholders)
  let r ← Action.adding fun st => st.allocate (Object.ofBody (.template t))
  return (t, r)

/-- Add what is derived from a template with another source. -/
def derive (t : Template) (source : String) : Action (Template × Ref) :=
  add t.derivedVariant t.derivedSettings source

end Template

end Stencil
