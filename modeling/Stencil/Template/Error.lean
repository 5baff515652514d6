import Stencil.Store.Exposure

/-!
# Template Errors

What can be wrong with a template, with its options, or with the values it is
given. An error is kept by its cause; its name, its code, its message and its
context are read off from that.

An error that belongs to a named template says so in front of its message. An
empty name is no name.

An error can also be put together from arbitrary values, as somebody who
reaches into a template can make it happen. Then what it says is settled when
it is made, and the values are kept with it.

## Main definitions

* `ErrorClass`: The classes of errors.
* `TemplateError`: The errors.
* `TemplateError.name`, `TemplateError.code`, `TemplateError.message`,
  `TemplateError.owner`: How an error presents itself.
* `Store.allocateContext`, `Store.allocateRecord`: The details of an error and
  its record for a log, as objects.
* `Failure`: Everything that an operation on templates can raise.
-/

namespace Stencil

/-- The classes of template errors. -/
inductive ErrorClass where
  /-- An error with a code of its own. -/
  | general
  /-- Options that do not fit. -/
  | config
  /-- A malformed placeholder. -/
  | malformed
  /-- Keys that name no placeholder. -/
  | invalidKeys
  /-- Placeholders without a value. -/
  | missingValues
  /-- A value that could not be written. -/
  | serialization
deriving DecidableEq

namespace ErrorClass

/-- The name of the errors of a class. -/
def name : ErrorClass → String
  | general => "TemplateError"
  | config => "ConfigError"
  | malformed => "TemplateSyntaxError"
  | invalidKeys => "InvalidTemplateKeysError"
  | missingValues => "MissingTemplateValuesError"
  | serialization => "TemplateSerializationError"

/-- The code of the errors of a class, if they share one. -/
def code? : ErrorClass → Option String
  | general => none
  | config => some "CONFIG_ERROR"
  | malformed => some "TEMPLATE_SYNTAX_ERROR"
  | invalidKeys => some "INVALID_TEMPLATE_KEYS"
  | missingValues => some "MISSING_TEMPLATE_VALUES"
  | serialization => some "TEMPLATE_SERIALIZATION_ERROR"

end ErrorClass

/-- The error behind another one: a new error or a value there was, and what its
    message says as a text. -/
structure Cause where
  error : Thrown
  text : String
deriving DecidableEq

/-- A plain error as a cause. -/
def Cause.plain (kind : ErrorKind) (message : String) : Cause :=
  ⟨.fault kind message, message⟩

/-- An error put together from values: its full message, and the values that
    are kept with it, undefined where there is none. -/
structure Statement where
  kind : ErrorClass
  message : String
  code : Value
  owner : Value
  context : Value
  cause : Option Cause := none
deriving DecidableEq

/-- The errors of templates. -/
inductive TemplateError where
  /-- Options with issues. -/
  | config (issues : List String)
  /-- A malformed placeholder. -/
  | malformed (m : Malformed) (templateName : String)
  /-- Keys that name no placeholder. -/
  | invalidKeys (invalid valid : List String) (templateName : String)
  /-- Placeholders without a value. -/
  | missingValues (names : List String) (templateName : String)
  /-- A value that could not be written. -/
  | serialization (key type : String) (cause : Cause) (templateName : String)
  /-- An error put together from values. -/
  | stated (s : Statement)
deriving DecidableEq

/-- What a kind of malformation is called in messages. -/
def Malformation.text : Malformation → String
  | unclosed => "Unclosed variable declaration"
  | nested => "Nested variable declaration"
  | emptyName => "Empty variable name"
  | invalidName => "Invalid variable name"

/-- The label of a kind of malformation. -/
def Malformation.label : Malformation → String
  | unclosed => "unclosed"
  | nested => "nested"
  | emptyName => "empty-name"
  | invalidName => "invalid-name"

namespace TemplateError

/-- The class of an error. -/
def kind : TemplateError → ErrorClass
  | config _ => .config
  | malformed _ _ => .malformed
  | invalidKeys _ _ _ => .invalidKeys
  | missingValues _ _ => .missingValues
  | serialization _ _ _ _ => .serialization
  | stated s => s.kind

/-- The name of an error. -/
def name (e : TemplateError) : String :=
  e.kind.name

/-- The code of an error. -/
def code (e : TemplateError) : Value :=
  match e with
  | stated s => s.code
  | e => (e.kind.code?.map Value.text).getD .undefined

/-- The name of a template as the owner of an error; an empty one is none. -/
def named (templateName : String) : Value :=
  if templateName = "" then .undefined else .text templateName

/-- The name of the template that an error belongs to. -/
def owner : TemplateError → Value
  | config _ => .undefined
  | malformed _ owner => named owner
  | invalidKeys _ _ owner => named owner
  | missingValues _ owner => named owner
  | serialization _ _ _ owner => named owner
  | stated s => s.owner

/-- A text behind the name of the template that it is about. -/
def owned (templateName text : String) : String :=
  if templateName = "" then text else "[Template: " ++ templateName ++ "] " ++ text

/-- What is said of a malformed placeholder. -/
def malformedText (reason position fragment : String) : String :=
  reason ++ " at position " ++ position ++ ": '" ++ fragment ++ "'"

/-- What is said of keys that name no placeholder. -/
def invalidKeysText (invalid valid : String) : String :=
  "Invalid keys provided to PromptTemplate: " ++ invalid
    ++ "\n\nNote: the template defines the following variables: " ++ valid

/-- What is said of placeholders without a value. -/
def missingValuesText (names : String) : String :=
  "Missing values for variables: " ++ names

/-- What is said of a value that could not be written. -/
def serializationText (key type cause : String) : String :=
  "Failed to serialize value for key '" ++ key ++ "' (" ++ type ++ "): " ++ cause

/-- The message of an error. -/
def message : TemplateError → String
  | config _ => "Invalid template options"
  | malformed m owner =>
    owned owner (malformedText m.reason.text (integerText m.position) m.fragment)
  | invalidKeys invalid valid owner =>
    owned owner (invalidKeysText (",".intercalate invalid) (",".intercalate valid))
  | missingValues names owner => owned owner (missingValuesText (",".intercalate names))
  | serialization key type cause owner => owned owner (serializationText key type cause.text)
  | stated s => s.message

/-- The error behind an error. -/
def cause? : TemplateError → Option Cause
  | serialization _ _ cause _ => some cause
  | stated s => s.cause
  | _ => none

end TemplateError

namespace Store

/-- Add the details of an error, as an object. -/
def allocateContext (st : Store) (e : TemplateError) : Store × Value :=
  match e with
  | .config issues =>
    let (st, issues) := st.allocateTexts issues
    st.allocatePlain [("issues", issues)]
  | .malformed m _ =>
    st.allocatePlain [
      ("reason", .text m.reason.label),
      ("fragment", .text m.fragment),
      ("position", .number (Number.ofInt m.position))]
  | .invalidKeys invalid valid _ =>
    let (st, invalid) := st.allocateTexts invalid
    let (st, valid) := st.allocateTexts valid
    st.allocatePlain [("invalidKeys", invalid), ("validKeys", valid)]
  | .missingValues names _ =>
    let (st, names) := st.allocateTexts names
    st.allocatePlain [("missingValues", names)]
  | .serialization key type _ _ =>
    st.allocatePlain [("key", .text key), ("valueType", .text type)]
  | .stated s => (st, s.context)

/-- Add the record of an error that goes into a log. What an error does not
    have is undefined there. -/
def allocateRecord (st : Store) (e : TemplateError) : Store × Value :=
  let (st, context) := st.allocateContext e
  st.allocatePlain [
    ("name", .text e.name),
    ("code", e.code),
    ("message", .text e.message),
    ("templateName", e.owner),
    ("context", context)]

end Store

/-- Everything that an operation on templates can raise. -/
inductive Failure where
  | thrown (t : Thrown)
  | template (e : TemplateError)
deriving DecidableEq

end Stencil
