import Stencil.Store.Read
import Stencil.Template.Error

/-!
# Settings of a Template

What the options of a template come to. Options are a text, which is the name
of the template, or an object with a name, a serializer and the wish to
dedent, all of which may be absent. Whether an object has nothing but that is left
to a check, and everything that the check finds is collected, each issue behind the
place it belongs to.

## Main definitions

* `Settings`: The settings of a template.
* `Settings.shape`: What options have to be.
* `Settings.resolve`: The settings that options come to.
-/

namespace Stencil

/-- The settings of a template. -/
structure Settings where
  name : String := ""
  serializer : Option Ref := none
  dedent : Bool := false
deriving DecidableEq

/-- Add objects. -/
def Store.extended (st : Store) (made : List Object) : Store :=
  made.foldl Store.push st

namespace Settings

/-- What options have to be. -/
def shape : Shape := [
  ("name", .optional .string),
  ("serializer", .optional (.custom (fun st v => (st.functionRef? v).isSome)
    "serializer must be a function")),
  ("dedent", .optional .boolean)]

/-- The text of an issue, behind the place that it belongs to. -/
def issueText (issue : Issue) : String :=
  ".".intercalate issue.path ++ ": " ++ issue.message

/-- The error of options with issues. -/
def invalid (issues : List Issue) : Failure :=
  .template (.config (issues.map issueText))

/-- A computation that can raise anything, from one that raises no template
    error. -/
def lift {α : Type} : Except Thrown α → Except Failure α
  | .ok a => .ok a
  | .error e => .error (.thrown e)

/-- What options are checked as: a text is a name, and nothing has no properties. -/
def checkedAs (st : Store) (options : Value) : Store × Value :=
  match options with
  | .text name => st.allocatePlain [("name", .text name)]
  | .undefined | .null => st.allocatePlain []
  | options => (st, options)

/-- The settings that values under the keys of options are, with a default for what is
    absent. -/
def ofData (st : Store) (data : List (String × Value)) : Settings where
  name := match data.lookup "name" with
    | some (.text name) => name
    | _ => ""
  serializer := (data.lookup "serializer").bind st.functionRef?
  dedent := match data.lookup "dedent" with
    | some (.boolean b) => b
    | _ => false

/-- The settings that options come to, in the store extended by what checking them
    made. -/
def resolve (interp : Interpretation) (st : Store) (options : Value) :
    Except Failure (Store × Settings) := do
  let (st, input) := checkedAs st options
  let checked ← lift (interp.check st shape input)
  let st := st.extended checked.made
  match checked.outcome with
  | .ok data => return (st, ofData st data)
  | .error issues => throw (invalid issues)

end Settings

end Stencil
