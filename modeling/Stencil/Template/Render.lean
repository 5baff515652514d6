import Stencil.Margin
import Stencil.Template.Exposed.Splice
import Stencil.Template.Exposed.Writing

/-!
# Rendering

The text of a template with all placeholders filled.

Keys are checked before anything else, then whether every placeholder has a
value, supplied or stored, and only then are values written, in order of
first occurrence. A value that is itself a template is rendered in place with
its own defaults. Defaults for keys that are no placeholders take no part.

What is written for a placeholder is a piece. It is a text, unless an exposed
template renders itself as something else; then it becomes a text when it is
put into the source, and an undefined one leaves its placeholder as it is.

Templates are stored as copies, so they never contain themselves, and the
allowance of depth, one more than there are objects, is not used up unless
somebody made a template contain itself.

## Main definitions

* `Template.valueFor?`: The value that fills a placeholder.
* `Template.missing`: The placeholders that nothing fills.
* `Template.pieces`, `Template.texts`: What is written for placeholders.
* `Template.fill`: The rendered text, given how values are written.
* `Template.render`: Rendering with the entries of an object.
* `Template.safeRender`: The same, with template errors as part of the outcome.
-/

namespace Stencil

namespace Template

variable (interp : Interpretation)

/-- The value that fills a placeholder: what is supplied, or else the
    default. -/
def valueFor? (t : Template) (supplied : List (String × Value)) (name : String) : Option Value :=
  (supplied.lookup name).or (t.defaults.lookup name)

/-- The placeholders that nothing fills. -/
def missing (t : Template) (supplied : List (String × Value)) : List String :=
  t.placeholders.filter fun name => (t.valueFor? supplied name).isNone

/-- What is written for placeholders, in order, given how values are written. -/
def pieces (write : String → Value → Action Value) (value? : String → Option Value) :
    List String → Action (List (String × Value))
  | [] => pure []
  | name :: more => do
    let piece ← write name ((value? name).getD .undefined)
    let rest ← pieces write value? more
    return (name, piece) :: rest

/-- The texts of pieces. -/
def texts : List (String × Value) → Action (List (String × String))
  | [] => pure []
  | (name, .text s) :: more => do
    let rest ← texts more
    return (name, s) :: rest
  | (_, .undefined) :: more => texts more
  | (name, piece) :: more => do
    let text ← Action.looking fun st => st.addedText interp piece
    let rest ← texts more
    return (name, text) :: rest

/-- The source with its placeholders exchanged for texts. -/
def splice (t : Template) (texts : List (String × String)) : String :=
  Stencil.splice t.source t.outline.occurrences fun name => texts.lookup name

/-- What is said of a text of some length that was rendered. -/
def renderedNote (output : String) : String :=
  "Rendered " ++ String.ofList (Nat.toDigits 10 (units output.toList)) ++ " characters"

/-- The rendered text, given how values are written. -/
def fill (write : String → Value → Action Value) (t : Template)
    (supplied : List (String × Value)) : Action String := do
  Action.checked (t.checkKeys (supplied.map Prod.fst))
  if t.missing supplied ≠ [] then
    Action.fail (.template (.missingValues (t.missing supplied) t.name))
  else
    let pieces ← pieces write (t.valueFor? supplied) t.placeholders
    let texts ← texts interp pieces
    let output := t.splice texts
    t.report (renderedNote output) none
    return if t.dedent then Stencil.dedent output else output

end Template

namespace Exposed

variable (interp : Interpretation)

/-- What is written for placeholders, in order, given how values are written. -/
def pieces (write : Value → Value → Action Value) (entries : List (Value × Value)) :
    List (Value × Value) → List Value → Action (List (Value × Value))
  | written, [] => pure written
  | written, name :: more => do
    let piece ← write name ((valueAt? name entries).getD .undefined)
    pieces write entries (setEntry name piece written) more

/-- The values that fill placeholders: the defaults of a template, and in front
    of them what is supplied. -/
def effective (this : Value) (supplied : List (String × Value)) :
    Action (List (Value × Value)) := do
  let stored ← part interp this "storedDefaults"
  let entries ← Action.reading fun st => (Store.reader interp).mapEntries st stored
  return supplied.foldl (fun entries (key, v) => setEntry (.text key) v entries) entries

/-- The source of a template with its placeholders exchanged for pieces. -/
def spliced (this : Value) (pieces : List (Value × Value)) : Action String := do
  let source ← part interp this "source"
  let occurrences ← part interp (← part interp this "parsed") "occurrences"
  splice interp source occurrences pieces

/-- The rendered text of a template, given how values are written. -/
def fill (write : Value → Value → Action Value) (this : Value)
    (supplied : List (String × Value)) : Action Value := do
  checkKeys interp this (supplied.map Prod.fst)
  let entries ← effective interp this supplied
  let names ← placeholderList interp this
  let missing ← elementsWithout interp "this.parsed.placeholders" names entries
  let count ← part interp missing "length"
  if (← Action.looking fun st => st.numberOf interp count).isPositive then
    let name ← part interp this "name"
    refuse interp .missingValues [missing, name]
  let names ← placeholderList interp this
  let names ← Action.reading fun st =>
    st.visit interp "this.parsed.placeholders is not iterable" names
  let pieces ← pieces write entries [] names
  let output ← spliced interp this pieces
  debug interp this (Template.renderedNote output) none
  let wish ← part interp (← part interp this "options") "dedent"
  return .text (if wish.holds then Stencil.dedent output else output)

end Exposed

namespace Template

variable (interp : Interpretation)

/-- The entries that fill a template; without an object, nothing is supplied. -/
def suppliedBy (values : Value) : Action (List (String × Value)) :=
  if values = .undefined then pure []
  else Action.reading fun st => st.supplied interp values

/-- What a template writes for a value: a template is rendered, given how, and
    any other value is written, given how. -/
def piece (render : Ref → Action Value) (write : Action Value) (v : Value) : Action Value := do
  match ← Action.asking fun st => st.templateRef? v with
  | some inner => render inner
  | none => write

/-- Render a template by its own way of doing so, given how templates among the
    values are rendered. -/
def renderNatively (render : Ref → Action Value) (r : Ref) (values : Value) : Action Value := do
  let supplied ← suppliedBy interp values
  match ← Action.asking fun st => st.template? r with
  | some t =>
    let write (name : String) (v : Value) : Action Value :=
      piece render (do return .text (← t.write interp name v)) v
    return .text (← t.fill interp write supplied)
  | none =>
    let this := Value.object r
    Exposed.fill interp (fun name v => piece render (Exposed.write interp this name v) v) this
      supplied

/-- Render a template with an allowance of depth; `what` is what it is called if
    it has no method for that. -/
def renderWithin : Nat → String → Ref → Value → Action Value
  | 0, _, _, _ => Action.fail (.thrown .tooDeep)
  | allowance + 1, what, r, values => do
    let natively :=
      renderNatively interp (fun inner => renderWithin allowance "value" inner .undefined) r values
    if ← Action.asking fun st => (st.template? r).isSome then natively
    else Exposed.invoke interp what (.object r) "render" (pure [values]) fun _ _ => natively

/-- Render a template with the entries of an object. -/
def render (what : String) (r : Ref) (values : Value) : Action Value := do
  let allowance ← Action.asking fun st => st.objects.size + 1
  renderWithin interp allowance what r values

/-- Render a template, with a template error as part of the outcome. -/
def safeRender (r : Ref) (values : Value) : Action (Except TemplateError Value) := do
  match ← (render interp "this" r values).attempt with
  | .ok text => return .ok text
  | .error (.template e) => return .error e
  | .error f => Action.fail f

end Template

end Stencil
