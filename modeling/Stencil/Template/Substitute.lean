import Stencil.Template.Defaults
import Stencil.Template.Render

/-!
# Substituting

A new template in which some placeholders are filled.

The texts are put into the source, and the result is parsed anew, so what is
inserted can bring placeholders of its own. A template among the values is
inserted as its source. The new template then receives those defaults that
name one of its placeholders: first the defaults of the old template, except
for the keys that were filled, and after them the defaults of the inserted
templates, in the order in which these were supplied.

## Main definitions

* `Template.inserted`: What a supplied value is inserted as.
* `Template.carriedOwn`, `Template.carryFrom`: The defaults that are passed on.
* `Template.substituteSupplied`, `Template.substitute`: Substituting supplied
  entries, and those of an object.
-/

namespace Stencil

namespace Store

/-- Whether a template has a default for a key. -/
def hasDefault (st : Store) (r : Ref) (key : String) : Bool :=
  match st.template? r with
  | some t => (t.defaults.lookup key).isSome
  | none => false

end Store

namespace Template

variable (interp : Interpretation)

/-- The source of a template among values. -/
def sourceOf (r : Ref) : Action Value := do
  match ← Action.asking fun st => st.template? r with
  | some t => return .text t.source
  | none => Exposed.part interp (.object r) "source"

/-- The defaults of a template among values. -/
def defaultsOf (r : Ref) : Action (List (Value × Value)) := do
  match ← Action.asking fun st => st.template? r with
  | some t => return t.defaults.map fun (key, v) => (.text key, v)
  | none => Exposed.storedEntries interp "value.storedDefaults" (.object r)

/-- What supplied values are inserted as, given how values are written. -/
def inserted (write : String → Value → Action Value) :
    List (String × Value) → Action (List (String × Value))
  | [] => pure []
  | (key, v) :: more => do
    let piece ← piece (sourceOf interp) (write key v) v
    let rest ← inserted write more
    return (key, piece) :: rest

/-- The defaults of a template that go on to one with the given placeholders,
    when some keys are filled. -/
def carriedOwn (t : Template) (placeholders filled : List String) : List (String × Value) :=
  t.defaults.filter fun (key, _) => placeholders.contains key && !filled.contains key

/-- Store the defaults of an inserted template that name a placeholder of the
    new one and that it does not have yet. -/
def carryFrom (placeholders : List String) (next : Ref) : List (Value × Value) → Action Unit
  | [] => pure ()
  | (.text key, v) :: more => do
    let known ← Action.asking fun st => st.hasDefault next key
    if placeholders.contains key && !known then
      storeOne interp (copy interp) next key v
    carryFrom placeholders next more
  | _ :: more => carryFrom placeholders next more

/-- Do something with the defaults of all inserted templates. -/
def carryFromAll (carry : List (Value × Value) → Action Unit) :
    List (String × Value) → Action Unit
  | [] => pure ()
  | (_, v) :: more => do
    match ← Action.asking fun st => st.templateRef? v with
    | some inner => carry (← defaultsOf interp inner)
    | none => pure ()
    carryFromAll carry more

/-- What is said of keys that were filled. -/
def substitutedNote (keys : List String) : String :=
  "Substituted " ++ ",".intercalate keys

/-- Fill some placeholders with supplied entries. -/
def substituteSupplied (t : Template) (supplied : List (String × Value)) : Action Ref := do
  let keys := supplied.map Prod.fst
  Action.checked (t.checkKeys keys)
  let pieces ← inserted interp (fun key v => do return .text (← t.write interp key v)) supplied
  let texts ← texts interp pieces
  let (made, next) ← t.derive (t.splice texts)
  storeAll interp (copy interp) next (t.carriedOwn made.placeholders keys)
  carryFromAll interp (carryFrom interp made.placeholders next) supplied
  t.report (substitutedNote keys) none
  return next

end Template

namespace Exposed

variable (interp : Interpretation)

/-- Store the defaults of an inserted template that name a placeholder of the
    new one and that it does not have yet. -/
def carryFrom (placeholders : List Value) (next : Value) : List (Value × Value) → Action Unit
  | [] => pure ()
  | (key, v) :: more => do
    if placeholders.contains key.asKey then
      let stored ← part interp next "storedDefaults"
      unless ← hasKey interp "next.storedDefaults" stored key do
        Template.give interp (Template.copy interp) "next" next key v
    carryFrom placeholders next more

/-- Fill some placeholders of a template with supplied entries. -/
def substitute (this : Value) (supplied : List (String × Value)) : Action Value := do
  let keys := supplied.map Prod.fst
  checkKeys interp this keys
  let pieces ← Template.inserted interp (fun key v => write interp this (.text key) v) supplied
  let pieces := pieces.map fun (key, piece) => (Value.text key, piece)
  let next ← derive interp this do return .text (← spliced interp this pieces)
  let placeholders ← placeholderSet interp next
  let own ← storedEntries interp "this.storedDefaults" this
  let own := own.filter fun (key, _) =>
    placeholders.contains key.asKey && (valueAt? key pieces).isNone
  Template.giveAll interp (Template.copy interp) "next" next own
  Template.carryFromAll interp (carryFrom interp placeholders next) supplied
  debug interp this (Template.substitutedNote keys) none
  return next

end Exposed

namespace Template

variable (interp : Interpretation)

/-- Fill some placeholders with the entries of an object; `what` is what the
    template is called if it has no method for that. -/
def substitute (what : String) (r : Ref) (values : Value) : Action Value := do
  let natively : Action Value := do
    let supplied ← Action.reading fun st => st.supplied interp values
    match ← Action.asking fun st => st.template? r with
    | some t => return .object (← t.substituteSupplied interp supplied)
    | none => Exposed.substitute interp (.object r) supplied
  if ← Action.asking fun st => st.isSealed r then natively
  else Exposed.invoke interp what (.object r) "substitute" (pure [values]) fun _ _ => natively

end Template

end Stencil
