import Stencil.Template.Substitute

/-!
# Templates From Outside

The operations on a template as somebody who holds it calls them. A template
with a method of its own runs that instead.

Whatever `what` stands for below is the name under which the caller knows the
template.

## Main definitions

* `Template.ask`: Calling a method of a template.
* `Template.askSerialize`, `Template.askSetDefault`, `Template.askDefault`,
  `Template.askEquals`, `Template.askText`, `Template.askSafeRender`: What only
  the caller uses.
* `Template.className`: The name of the class of a template.
-/

namespace Stencil

namespace Template

variable (interp : Interpretation)

/-- Call a method of a template, given what the native one does. One that nobody
    has reached into has the native one. -/
def ask (what : String) (r : Ref) (name : String) (argument : Value)
    (natively : Family → Action Value) : Action Value := do
  match ← Action.asking fun st => st.template? r with
  | some t => natively (.template t.variant)
  | none =>
    Exposed.invoke interp what (.object r) name (pure [argument]) fun f _ => natively f

/-- What a template makes of a value. -/
def askSerialize (what : String) (r : Ref) (v : Value) : Action Value := do
  match ← Action.asking fun st => st.template? r with
  | some t => Action.settling (← Action.looking fun st => t.serialize interp st v)
  | none => Exposed.serialize interp what (.object r) v

/-- Let a template have the entries of an object as defaults. -/
def askSetDefault (what : String) (r : Ref) (values : Value) : Action Value :=
  ask interp what r "setDefault" values fun _ => do
    setDefault interp r values
    return .undefined

/-- The default that a template has for a key; undefined if it has none. -/
def askDefault (what : String) (r : Ref) (key : Value) : Action Value := do
  let defaults ← Exposed.part interp (.object r) "defaults"
  Exposed.invoke interp (what ++ ".defaults") defaults "get" (pure [key]) fun _ _ =>
    Action.looking fun st =>
      match defaults with
      | .object m =>
        match (st.get m).body with
        | .map entries => .ok ((valueAt? key entries).getD .undefined)
        | _ => st.misplaced m "Map.prototype.get"
      | _ => .ok .undefined

/-- Whether a template has the same name and source as another one. -/
def sameParts (r other : Ref) : Action Bool := do
  let theirs ← Exposed.part interp (.object other) "name"
  let own ← Exposed.part interp (.object r) "name"
  if theirs.same own then
    let theirs ← Exposed.part interp (.object other) "source"
    let own ← Exposed.part interp (.object r) "source"
    return theirs.same own
  else return false

/-- Whether a template equals a value. -/
def askEquals (what : String) (r : Ref) (v : Value) : Action Value :=
  ask interp what r "equals" v fun _ => do
    match ← Action.asking fun st => st.templateRef? v with
    | none => return .boolean false
    | some other =>
      match ← Action.asking fun st => (st.template? r, st.template? other) with
      | (some t, some u) => return .boolean (t.equals u)
      | _ => return .boolean (← sameParts interp r other)

/-- The text that a template, or whatever is held in its place, gives for
    itself. -/
def askText (what : String) (r : Ref) : Action Value :=
  ask interp what r "toString" .undefined fun f =>
    match f with
    | .template _ => do
      let text ← Action.looking fun st => st.templateText interp (st.conversions interp [r]) r
      return .text text
    | f => do
      let text ← Action.looking fun st =>
        st.nativeSimple interp (st.conversions interp [r]) [] r f
      return text.getD .undefined

/-- Render a template, with a template error as part of the outcome. What its own
    method gives counts as a result. -/
def askSafeRender (what : String) (r : Ref) (values : Value) : Action (Except Failure Value) := do
  let natively : Action (Except Failure Value) := do
    match ← safeRender interp r values with
    | .ok text => return .ok text
    | .error e => return .error (.template e)
  match ← Action.reading fun st => st.method? interp r "safeRender" with
  | some (.native _ _) => natively
  | _ =>
    let result ← Exposed.invoke interp what (.object r) "safeRender" (pure [values])
      fun _ _ => return .undefined
    match ← Action.reading fun st => Result.view interp st result with
    | .ok data => return .ok data
    | .err error => return .error (.thrown (.value error))

/-- The name of the class of what is held as a template. -/
def className (v : Value) : Action Value := do
  match v with
  | .object r =>
    match ← Action.reading fun st => st.makerNameValue? interp r with
    | some name => return name
    | none => Action.looking fun _ => Store.unreadable .undefined "name"
  | .undefined | .null => Action.looking fun _ => Store.unreadable v "constructor"
  | v => return .text v.wrapper.name

end Template

end Stencil
