import Stencil.Level
import Stencil.Logger.Colour

/-!
# Loggers

Loggers form a forest. A logger has a label that is put in front of its
messages, and a level; but the level in force is that of its root, so
configuring a root reaches every logger below it, and the level of any other
logger is never looked at.

A new logger can only name an older one as its parent. Following parents
therefore goes down in the order of creation, and `rootOf` needs no bound.

## Main definitions

* `Logger`: What is known of one logger.
* `Forest`: All loggers, by order of creation.
* `Forest.add`, `Forest.child`, `Forest.configure`: The operations.
* `Forest.rootOf`, `Forest.levelOf`: The root of a logger and the level in
  force.
* `Forest.log`: What a message looks like, if it is shown.

## Theorems

* `Forest.get_add`, `Forest.get_configure`: The loggers after an operation.
-/

namespace Stencil

/-- A logger: its own level, the label in front of its messages, and its
    parent. -/
structure Logger where
  level : Level := .info
  label : String := ""
  parent : Option Nat := none
deriving DecidableEq, Inhabited

namespace Logger

/-- The text of a message behind a label, if there is a label. -/
def labelled (label message : String) : String :=
  if label = "" then message else label ++ " " ++ message

/-- What a message looks like on a channel. -/
def lineOn (palette : Palette) (channel : Channel) (label message : String) : String :=
  channel.paint palette (labelled label message)

end Logger

/-- Loggers by order of creation. -/
structure Forest where
  loggers : Array Logger := #[]
deriving DecidableEq, Inhabited

namespace Forest

/-- The forest of one logger, the global one. -/
def initial : Forest :=
  ⟨#[{}]⟩

/-- The logger at a place, by default a fresh one. -/
def get (f : Forest) (i : Nat) : Logger :=
  (f.loggers[i]?).getD {}

/-- A further logger. -/
def add (f : Forest) (logger : Logger) : Forest × Nat :=
  (⟨f.loggers.push logger⟩, f.loggers.size)

/-- The root above a logger. -/
def rootOf (f : Forest) (i : Nat) : Nat :=
  match (f.get i).parent with
  | none => i
  | some p => if p < i then rootOf f p else i
termination_by i

/-- The level in force at a logger. -/
def levelOf (f : Forest) (i : Nat) : Level :=
  (f.get (f.rootOf i)).level

/-- A child of a logger. It hangs below the parent of a logger that has one,
    and its label continues that of its creator. -/
def child (f : Forest) (i : Nat) (label : String) : Forest × Nat :=
  let creator := f.get i
  f.add {
    level := creator.level
    label := Logger.labelled creator.label label
    parent := some (creator.parent.getD i) }

/-- Change the level or the label of a logger. -/
def configure (f : Forest) (i : Nat) (level : Option Level) (label : Option String) : Forest :=
  let logger := f.get i
  ⟨f.loggers.setIfInBounds i {
    logger with
    level := level.getD logger.level
    label := label.getD logger.label }⟩

/-- What a message looks like, if the level in force lets it through. -/
def log (palette : Palette) (f : Forest) (i : Nat) (channel : Channel) (message : String) :
    Option String :=
  if (f.levelOf i).allows channel then
    some (Logger.lineOn palette channel (f.get i).label message)
  else none

/-! ### What an operation leaves behind -/

theorem size_add (f : Forest) (logger : Logger) :
    (f.add logger).1.loggers.size = f.loggers.size + 1 :=
  Array.size_push _

theorem get_add (f : Forest) (logger : Logger) (i : Nat) :
    (f.add logger).1.get i = if i = f.loggers.size then logger else f.get i := by
  unfold add get
  rw [Array.getElem?_push]
  split <;> rfl

theorem get_add_self (f : Forest) (logger : Logger) :
    (f.add logger).1.get f.loggers.size = logger := by
  rw [get_add, if_pos rfl]

theorem get_add_of_lt {f : Forest} {i : Nat} (inside : i < f.loggers.size) (logger : Logger) :
    (f.add logger).1.get i = f.get i := by
  rw [get_add, if_neg (Nat.ne_of_lt inside)]

theorem size_configure (f : Forest) (i : Nat) (level : Option Level) (label : Option String) :
    (f.configure i level label).loggers.size = f.loggers.size :=
  Array.size_setIfInBounds

theorem get_configure (f : Forest) (i : Nat) (level : Option Level) (label : Option String)
    (j : Nat) :
    (f.configure i level label).get j =
      if i = j ∧ i < f.loggers.size then
        { f.get j with
          level := level.getD (f.get j).level
          label := label.getD (f.get j).label }
      else f.get j := by
  unfold configure get
  rw [Array.getElem?_setIfInBounds]
  by_cases same : i = j
  · subst same
    by_cases inside : i < f.loggers.size
    · simp [inside]
    · simp [inside]
  · simp [same]

theorem configure_none (f : Forest) (i : Nat) : f.configure i none none = f := by
  unfold configure get
  by_cases inside : i < f.loggers.size
  · simp only [Array.setIfInBounds, inside, dif_pos, getElem?_pos, Option.getD_some,
      Option.getD_none]
    exact congrArg Forest.mk (Array.set_getElem_self inside)
  · simp only [Array.setIfInBounds, inside, dif_neg, not_false_eq_true]

end Forest

end Stencil
