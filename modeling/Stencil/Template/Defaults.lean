import Stencil.Store.Copy
import Stencil.Template.Exposed.Writing

/-!
# Defaults

Storing values that fill placeholders when nothing else does.

A template keeps deep copies, so it does not notice what happens to a value
afterwards. A template that is stored is copied as a template: a new one is
derived from it, and its defaults are stored in turn. Keys need not name
placeholders, and a default is replaced but never removed.

Copying a template leads to copying those among its defaults. It is given an
allowance of depth, one more than there are objects, which is only used up by
a template that somebody made contain itself.

## Main definitions

* `setDefaultValue`: A list of defaults with one of them set.
* `Store.putDefault`: A template with one of its defaults set.
* `Template.storeOne`, `Template.storeAll`: Storing copies of values.
* `Template.copy`: A copy of a template, with its defaults.
* `Template.setDefault`: Storing the entries of an object.
-/

namespace Stencil

/-- Defaults with one of them set; a known key keeps its place. -/
def setDefaultValue (key : String) (v : Value) : List (String × Value) → List (String × Value)
  | [] => [(key, v)]
  | (known, old) :: more =>
    if known = key then (known, v) :: more else (known, old) :: setDefaultValue key v more

namespace Store

/-- Whether nobody has reached into a template. -/
def isSealed (st : Store) (r : Ref) : Bool :=
  (st.template? r).isSome

/-- Let a template have a default. One that was exposed in the meantime has a map
    of them. -/
def putDefault (st : Store) (r : Ref) (key : String) (v : Value) : Store :=
  let o := st.get r
  match o.body with
  | .template t =>
    st.write r { o with
      body := .template { t with defaults := setDefaultValue key v t.defaults } }
  | _ =>
    match o.value? "storedDefaults" with
    | some (.object m) =>
      let o := st.get m
      match o.body with
      | .map entries => st.write m { o with body := .map (setEntry (.text key) v entries) }
      | _ => st
    | _ => st

end Store

namespace Exposed

variable (interp : Interpretation)

/-- The entries of the map of defaults of a template; `what` is what the map is
    called if it is none. -/
def storedEntries (what : String) (this : Value) : Action (List (Value × Value)) := do
  let stored ← part interp this "storedDefaults"
  Action.reading fun st => (Store.reader interp).pairs st (what ++ " is not iterable") stored

/-- Store copies of values as defaults, one after the other, given how values are
    copied. -/
def storeAll (copied : Value → Action Value) (this : Value) : List (String × Value) → Action Unit
  | [] => pure ()
  | (key, v) :: more => do
    let stored ← part interp this "storedDefaults"
    putEntry interp "this.storedDefaults" stored (.text key) (copied v)
    storeAll copied this more

/-- An object with one entry. -/
def entryObject (key v : Value) : Action Value :=
  Action.reading fun st => do
    let key ← st.keyOf interp key
    return st.allocateValue { Object.plain [] with fields := [(key, { slot := .data v })] }

end Exposed

namespace Template

variable (interp : Interpretation)

/-- The copy of a value that is stored, given how templates are copied. -/
def copied (copyTemplate : Ref → Action Value) (v : Value) : Action Value := do
  match ← Action.asking fun st => st.templateRef? v with
  | some inner => copyTemplate inner
  | none => Action.reading fun st => st.copy interp v

/-- Store a copy of a value as a default, given how templates are copied. What is
    undefined counts as absent. -/
def storeOne (copyTemplate : Ref → Action Value) (r : Ref) (key : String) (v : Value) :
    Action Unit := do
  if v = .undefined then return ()
  else if ← Action.asking fun st => st.isSealed r then
    let copy ← copied interp copyTemplate v
    Action.changing fun st => st.putDefault r key copy
  else Exposed.storeAll interp (copied interp copyTemplate) (.object r) [(key, v)]

/-- Store copies of values as defaults, one after the other. -/
def storeAll (copyTemplate : Ref → Action Value) (r : Ref) : List (String × Value) → Action Unit
  | [] => pure ()
  | (key, v) :: more => do
    storeOne interp copyTemplate r key v
    storeAll copyTemplate r more

/-- Store the entries that an object supplies as defaults. -/
def storeSupplied (copyTemplate : Ref → Action Value) (r : Ref) (values : Value) :
    Action Unit := do
  let supplied ← Action.reading fun st => st.supplied interp values
  storeAll interp copyTemplate r supplied

/-- Let what was derived have a default by its method for that; `what` is what it
    is called if it has none. -/
def give (copyTemplate : Ref → Action Value) (what : String) (target key v : Value) :
    Action Unit := do
  let _ ← Exposed.invoke interp what target "setDefault"
    (do return [← Exposed.entryObject interp key v])
    fun _ arguments => do
      match target with
      | .object r => storeSupplied interp copyTemplate r (arguments.headD .undefined)
      | _ => pure ()
      return .undefined
  return ()

/-- Let what was derived have defaults, one after the other. -/
def giveAll (copyTemplate : Ref → Action Value) (what : String) (target : Value) :
    List (Value × Value) → Action Unit
  | [] => pure ()
  | (key, v) :: more => do
    give interp copyTemplate what target key v
    giveAll copyTemplate what target more

/-- Copy a template with an allowance of depth. -/
def copyWithin : Nat → Ref → Action Value
  | 0, _ => Action.fail (.thrown .tooDeep)
  | allowance + 1, r => do
    match ← Action.asking fun st => st.template? r with
    | some t =>
      let (_, copy) ← t.derive t.source
      storeAll interp (copyWithin allowance) copy t.defaults
      return .object copy
    | none =>
      let this := Value.object r
      Exposed.invoke interp "value" this "copy" (pure []) fun _ _ => do
        let made ← Exposed.derive interp this (Exposed.part interp this "source")
        let entries ← Exposed.storedEntries interp "this.storedDefaults" this
        giveAll interp (copyWithin allowance) "copy" made entries
        return made

/-- A copy of a template, with its defaults. -/
def copy (r : Ref) : Action Value := do
  let allowance ← Action.asking fun st => st.objects.size + 1
  copyWithin interp allowance r

/-- Store the entries of an object as defaults. -/
def setDefault (r : Ref) (values : Value) : Action Unit :=
  storeSupplied interp (copy interp) r values

end Template

end Stencil
