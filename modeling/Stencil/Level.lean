import Stencil.Text.Blank

/-!
# Log Levels

From the most to the least verbose. A message is logged on a channel and is
shown if the rank of the channel is at least the rank of the level in force;
the level `silent` lies above every channel, and so does a level of a name
that is not one of the known ones.

## Main definitions

* `Level`, `Channel`: Levels, and the levels at which messages are logged.
* `Level.allows`: Whether a level lets a channel through.
* `Level.ofEnvironment`: The level that the environment asks for.
-/

namespace Stencil

/-- How much is logged. -/
inductive Level where
  | debug
  | info
  | warn
  | error
  | silent
  /-- A level of another name. -/
  | other (name : String)
deriving DecidableEq, Inhabited

/-- Where a message is logged. -/
inductive Channel where
  | debug
  | info
  | warn
  | error
deriving DecidableEq

namespace Level

/-- Levels in order, from the most verbose. -/
def rank : Level → Nat
  | debug => 0
  | info => 1
  | warn => 2
  | error => 3
  | silent | other _ => 4

/-- The name of a level. -/
def name : Level → String
  | debug => "debug"
  | info => "info"
  | warn => "warn"
  | error => "error"
  | silent => "silent"
  | other name => name

/-- The levels with a place in the order. -/
def all : List Level :=
  [debug, info, warn, error, silent]

/-- The known level of a name. -/
def ofName? (text : String) : Option Level :=
  all.find? fun level => level.name == text

/-- The level of a name. -/
def ofName (text : String) : Level :=
  (ofName? text).getD (other text)

end Level

/-- The level of the messages of a channel. -/
def Channel.level : Channel → Level
  | debug => .debug
  | info => .info
  | warn => .warn
  | error => .error

namespace Level

/-- Whether a level lets the messages of a channel through. -/
def allows (level : Level) (channel : Channel) : Bool :=
  level.rank ≤ channel.level.rank

/-- The variable of the environment that sets the level. -/
def variableName : String :=
  "PROMPT_TEMPLATE_LOG_LEVEL"

/-- The level that a setting names, in either case and with whitespace around
    it, or `info`. Folding ASCII letters is enough: no other character folds to
    a letter of these names. -/
def ofSetting (setting : String) : Level :=
  let folded := (trim setting.toList).map Char.toLower
  (ofName? (String.ofList folded)).getD .info

/-- The level that the environment asks for. The last setting of a variable
    counts, and without one the level is `info`. -/
def ofEnvironment (environment : List (String × Option String)) : Level :=
  match environment.reverse.lookup variableName with
  | some (some setting) => ofSetting setting
  | _ => .info

end Level

end Stencil
