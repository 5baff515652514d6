import Stencil.Logger
import Stencil.Template.Error

/-!
# Actions

Operations on templates change the store and report what they do, and they may
fail. What was written or reported before a failure stays, so the store and
the reports are part of the outcome whether or not there is a result.

A report says which level was in force when it was made; whether it is shown
depends on that alone. So the result of an operation does not depend on any
level.

Functions that values bring along only read the store. Where they raise an
error, nothing was changed by them.

## Main definitions

* `Event`: A report.
* `Event.line?`: What a report looks like, if it is shown.
* `Outcome`, `Action`: What an operation leads to, and operations.
* `Action.reading`, `Action.raising`, `Action.checked`: Actions of
  computations that read the store.
-/

namespace Stencil

/-- A report: the level in force when it was made, the label of its logger, the
    message, and the names that it is about. -/
structure Event where
  level : Level
  label : String
  message : String
  names : Option (List String) := none
deriving DecidableEq

/-- What a report looks like, if the level in force lets it through. -/
def Event.line? (palette : Palette) (e : Event) : Option String :=
  if e.level.allows .debug then some (Logger.lineOn palette .debug e.label e.message) else none

/-- What an operation leads to. -/
structure Outcome (α : Type) where
  store : Store
  events : List Event
  result : Except Failure α

/-- An operation on a store. -/
structure Action (α : Type) where
  run : Store → Outcome α

namespace Action

variable {α β : Type}

/-- A value, with nothing done. -/
def ok (a : α) : Action α :=
  ⟨fun st => ⟨st, [], .ok a⟩⟩

/-- Failing, with nothing done. -/
def fail (f : Failure) : Action α :=
  ⟨fun st => ⟨st, [], .error f⟩⟩

/-- Go on with the value of an action. -/
def andThen (x : Action α) (f : α → Action β) : Action β :=
  ⟨fun st =>
    let first := x.run st
    match first.result with
    | .error e => ⟨first.store, first.events, .error e⟩
    | .ok a =>
      let second := (f a).run first.store
      ⟨second.store, first.events ++ second.events, second.result⟩⟩

instance : Monad Action where
  pure := ok
  bind := andThen

/-- What the store says. -/
def asking (f : Store → α) : Action α :=
  ⟨fun st => ⟨st, [], .ok (f st)⟩⟩

/-- A change of the store. -/
def changing (f : Store → Store) : Action Unit :=
  ⟨fun st => ⟨f st, [], .ok ()⟩⟩

/-- Something added to the store. -/
def adding (f : Store → Store × α) : Action α :=
  ⟨fun st =>
    let (st, a) := f st
    ⟨st, [], .ok a⟩⟩

/-- A computation that extends the store and can raise anything. -/
def raising (f : Store → Except Failure (Store × α)) : Action α :=
  ⟨fun st =>
    match f st with
    | .ok (st, a) => ⟨st, [], .ok a⟩
    | .error e => ⟨st, [], .error e⟩⟩

/-- A computation that extends the store. -/
def reading (f : Store → Except Thrown (Store × α)) : Action α :=
  ⟨fun st =>
    match f st with
    | .ok (st, a) => ⟨st, [], .ok a⟩
    | .error t => ⟨st, [], .error (.thrown t)⟩⟩

/-- A computation that leaves the store as it is. -/
def looking (f : Store → Except Thrown α) : Action α :=
  ⟨fun st =>
    match f st with
    | .ok a => ⟨st, [], .ok a⟩
    | .error t => ⟨st, [], .error (.thrown t)⟩⟩

/-- What was found out about the store, unless it was a template error. -/
def checked (made : Except TemplateError α) : Action α :=
  match made with
  | .ok a => ok a
  | .error e => fail (.template e)

/-- The value of an answer. -/
def settling (answer : Answer) : Action Value :=
  adding answer.settle

/-- Make a report. -/
def report (e : Store → Event) : Action Unit :=
  ⟨fun st => ⟨st, [e st], .ok ()⟩⟩

/-- What an action comes to, with what it raises as part of the result. -/
def attempt (x : Action α) : Action (Except Failure α) :=
  ⟨fun st =>
    let outcome := x.run st
    ⟨outcome.store, outcome.events, .ok outcome.result⟩⟩

end Action

end Stencil
