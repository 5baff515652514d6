import Stencil.Result
import Stencil.Store.Mutate
import Stencil.Template.Basic
import Stencil.Template.Statement

/-!
# Exposed Templates

What a template does once somebody has reached into it.

The state of an exposed template is a handful of properties, and an object
that derives from a template has the same properties without having a state.
Anybody can change them, replace the objects behind them, or give the template
methods of its own. So every step has to look up what it needs, take any value
for an answer, and raise the error of whatever cannot be done with it. As long
as nobody changed anything, all of this comes to the same as for a template
whose state is one value.

This module has the single steps: reading parts, calling methods, reporting,
and refusing keys.

## Main definitions

* `Exposed.part`: The value of a property.
* `Exposed.invoke`: Calling a method.
* `Exposed.refuse`: Raising an error put together from values.
* `Exposed.debug`: Reporting through the logger of a template.
* `Exposed.checkKeys`: Refusing keys.
-/

namespace Stencil

namespace Exposed

variable (interp : Interpretation)

/-! ### Reading and calling -/

/-- The value of a property of a value. -/
def part (v : Value) (name : String) : Action Value :=
  Action.reading fun st => st.member interp v name

/-- Call a function with one argument. -/
def callFunction (f : Ref) (receiver argument : Value) : Action Value := do
  let answer ← Action.looking fun st => st.call interp f receiver argument
  Action.settling answer

/-- Call what a value has as a method, given what the native one does; `what` is
    what the value is called if it has none. The method is looked up before its
    arguments are computed, and only after that it is called. -/
def invoke (what : String) (v : Value) (name : String) (arguments : Action (List Value))
    (natively : Family → List Value → Action Value) : Action Value := do
  let callee ← Action.reading fun st => st.methodOf? interp v name
  let arguments ← arguments
  match callee with
  | some (.function f) => callFunction interp f v (arguments.headD .undefined)
  | some (.native _ f) => natively f arguments
  | none => Action.looking fun _ => Store.notFunction (what ++ "." ++ name)

/-- Raise an error of a class, put together from values. -/
def refuse {α : Type} (kind : ErrorClass) (args : List Value) : Action α := do
  let e ← Action.reading (Statement.make interp kind args)
  Action.fail (.template e)

/-- Add an error. -/
def addError (kind : ErrorKind) (message : String) : Action Value :=
  Action.adding fun st => st.allocateValue (Object.error kind message)

/-- Write to an object. -/
def writing (f : Store → Written) : Action Unit :=
  ⟨fun st =>
    let written := f st
    { store := written.store
      events := []
      result := match written.raised with
        | none => .ok ()
        | some t => .error (.thrown t) }⟩

/-! ### Collections -/

/-- Whether a collection has a key. -/
def hasKey (what : String) (collection key : Value) : Action Bool := do
  let found ← invoke interp what collection "has" (pure [key]) fun f _ =>
    Action.looking fun st =>
      match collection with
      | .object r =>
        match f, (st.get r).body with
        | .map, .map entries => .ok (.boolean (valueAt? key entries).isSome)
        | .set, .set elements => .ok (.boolean (elements.contains key.asKey))
        | f, _ => st.misplaced r (f.name ++ ".prototype.has")
      | _ => .ok .undefined
  return found.holds

/-- Set an entry of a collection. -/
def putEntry (what : String) (collection key : Value) (v : Action Value) : Action Unit := do
  let _ ← invoke interp what collection "set" (do return [key, ← v]) fun f arguments => do
    let v := arguments.getD 1 .undefined
    match f, collection with
    | .map, .object r =>
      writing fun st => Store.nativeWrite interp st r .setEntry (.mapSet key v)
      return collection
    | .typedArray, .object r =>
      writing fun st => Store.nativeWrite interp st r .setCells (.mapSet key v)
      return .undefined
    | _, _ => return .undefined
  return ()

/-- The elements that are there, of those up to the length of an object. -/
def presentElements (st : Store) (r : Ref) : Except Thrown (Store × List Value) := do
  let (inner, elements) ← st.sequence interp (fun st v => st.numberOf interp v) r
  let present := elements.zipIdx.filter fun (v, i) =>
    v ≠ .undefined || (st.find? r (.text (indexName i))).isSome
  return (inner, present.map Prod.fst)

/-- The elements of an object of a kind, as the list or the view that filtering it
    by the method of a family gives. -/
def filtered (st : Store) (f : Family) (r : Ref) (isKept : Value → Bool) :
    Except Thrown (Store × Value) :=
  match f, (st.get r).body with
  | .typedArray, .octets c w =>
    let cells := w.visible.filter fun b => isKept (.number (Number.ofInt b.toNat))
    .ok (st.allocateValue (Object.ofBody (.octets c (.whole cells))))
  | .typedArray, .cells c w =>
    let cells := w.visible.filter fun n => isKept (.number n)
    .ok (st.allocateValue (Object.ofBody (.cells c (.whole cells))))
  | .typedArray, _ => Store.mistyped "this is not a typed array."
  | _, _ => do
    let (st, elements) ← presentElements interp st r
    return st.allocateArray (elements.filter isKept)

/-- The elements of a list that have no key in a map, as a new list. -/
def elementsWithout (what : String) (list : Value) (entries : List (Value × Value)) :
    Action Value :=
  invoke interp what list "filter" (pure []) fun f _ =>
    match list with
    | .object r =>
      Action.reading fun st => filtered interp st f r fun v => (valueAt? v entries).isNone
    | _ => pure .undefined

/-! ### Reports -/

/-- The level in force at a logger, at most so many parents up. -/
def levelWithin : Nat → String → Value → Action Value
  | 0, _, _ => Action.fail (.thrown .tooDeep)
  | bound + 1, what, logger =>
    invoke interp what logger "getLevel" (pure []) fun _ _ => do
      let parent ← part interp logger "parent"
      if parent.holds then levelWithin bound "this.parent" parent
      else part interp logger "level"

/-- Whether a logger shows messages for debugging. -/
def showsDebug (logger : Value) : Action Bool := do
  let shown ← invoke interp "this" logger "shouldLog" (pure [.text "debug"]) fun _ _ => do
    let bound ← Action.asking fun st => st.objects.size + 1
    let level ← levelWithin interp bound "this" logger
    match ← Action.looking fun st => st.keyOf interp level with
    | .text name => return .boolean ((Level.ofName name).allows .debug)
    | .symbol _ => return .boolean false
  return shown.holds

/-- A message behind the label of a logger. -/
def labelled (logger : Value) (message : String) : Action String := do
  let text ← invoke interp "this" logger "format" (pure [.text message]) fun _ _ => do
    let label ← part interp logger "prefix"
    if label.holds then
      let label ← Action.looking fun st => st.textOf interp label
      return .text (label ++ " " ++ message)
    else return .text message
  Action.looking fun st => st.addedText interp text

/-- Report a message for debugging through the logger of a template, with the
    names that it is about. -/
def debug (this : Value) (message : String) (names : Option (List String)) : Action Unit := do
  let logger ← part interp this "log"
  let _ ← invoke interp "this.log" logger "debug" (pure [.text message]) fun _ _ => do
    if ← showsDebug interp logger then
      let line ← labelled interp logger message
      Action.report fun _ => { level := .debug, label := "", message := line, names := names }
    return .undefined
  return ()

/-- The logger of a new template with a name, as the global logger gives it. -/
def newLogger (name : String) : Action Value := do
  let logger := Value.object Store.globalLogger
  let label := Journal.labelFor name
  invoke interp "logger" logger "child" (pure [.text label]) fun _ _ => do
    let level ← part interp logger "level"
    let parent ← part interp logger "parent"
    let above ← part interp logger "prefix"
    let label ← if above.holds then do
        let above ← Action.looking fun st => st.textOf interp above
        pure (above ++ " " ++ label)
      else pure label
    Action.adding fun st => st.allocateValue (Object.logger
      (if level = .undefined then .text Level.info.name else level)
      (.text label)
      (if parent = .undefined || parent = .null then logger else parent))

/-- Let the global logger have a level, and give the one that is in force
    then. -/
def configure (level : String) : Action Value := do
  let logger := Value.object Store.globalLogger
  let config : Action (List Value) := do
    let config ← Action.adding fun st => st.allocatePlain [("level", .text level)]
    return [config]
  let _ ← invoke interp "logger" logger "configure" config fun _ _ => do
    Action.reading fun st => do
      let st ← if st.isOrderly Store.globalLogger then .ok (st.configure level)
        else st.set interp Store.globalLogger (.text "level") (.text level)
      return (st, .undefined)
  let bound ← Action.asking fun st => st.objects.size + 1
  levelWithin interp bound "logger" logger

/-! ### Keys -/

/-- The list of the placeholders of a template. -/
def placeholderList (this : Value) : Action Value := do
  part interp (← part interp this "parsed") "placeholders"

/-- The set of the placeholders of a template. -/
def placeholderSet (this : Value) : Action (List Value) := do
  let names ← placeholderList interp this
  Action.reading fun st => (Store.reader interp).setElements st names

/-- Refuse keys that name no placeholder. -/
def checkKeys (this : Value) (keys : List String) : Action Unit := do
  let list ← Action.adding fun st => st.allocateTexts keys
  let _ ← invoke interp "this" this "assertKnownKeys" (pure [list]) fun _ _ => do
    let declared ← placeholderSet interp this
    let unknown := keys.filter fun key => !declared.contains (.text key)
    if unknown ≠ [] then
      let valid ← part interp this "placeholders"
      let name ← part interp this "name"
      let unknown ← Action.adding fun st => st.allocateTexts unknown
      refuse interp .invalidKeys [unknown, valid, name]
    return .undefined
  return ()

end Exposed

end Stencil
