import Stencil.Checking
import Stencil.Result
import Stencil.Serializer

/-!
# Running Procedures

The interpretation under which procedures do what their names say.

A routine may write a value, and writing may call methods, which are
procedures again. Such inner calls get no object as argument, so they start
no further writing of their own and the nesting is shallow. Interpretations
are therefore given by levels: a procedure at one level runs its inner calls
at the level below.

## Main definitions

* `Routine.run`: What a routine gives.
* `Procedure.run`: What a procedure gives.
* `Interpretation.standard`: The interpretation with every procedure run as
  described.
-/

namespace Stencil

namespace Routine

/-- Twice a value. -/
def doubledNumber (interp : Interpretation) (st : Store) (v : Value) : Except Thrown Value := do
  match ← st.simple interp .number v with
  | .bigint _ =>
    throw (.fault .typeError "Cannot mix BigInt and other types, use explicit conversions")
  | v => return .number (← Store.simpleNumber v).double

/-- The message of a value that is an error, the text of any other. -/
def wrappedText (interp : Interpretation) (st : Store) (v : Value) : Except Thrown String :=
  match v with
  | .object r =>
    if st.isError v then do
      let (st, message) ← st.read interp r (.text "message")
      st.textOf interp message
    else st.describe interp v
  | v => st.describe interp v

/-- What a routine gives, with an interpretation for the calls it leads to. -/
def run (interp : Interpretation) (st : Store) (receiver argument : Value) :
    Routine → Except Thrown Answer
  | text => do return .existing (.text (← st.describe interp argument))
  | joined => st.joined interp argument
  | json => do
    return match ← st.jsonText? interp argument with
      | some s => .existing (.text s)
      | none => .existing .undefined
  | bracketed => do
    let (st, v) := (← Serializer.serialize interp st argument).settle st
    return .existing (.text ("<" ++ (← st.textOf interp v) ++ ">"))
  | typeName => do return .existing (.text (← st.typeName interp argument))
  | doubled => do return .existing (← doubledNumber interp st argument)
  | okDoubled => do return .fresh (Result.okObject (← doubledNumber interp st argument))
  | wrapped => do
    let message ← wrappedText interp st argument
    return .fresh (Object.error .error ("wrapped: " ++ message))
  | Routine.argument => .ok (.existing argument)
  | Routine.receiver => .ok (.existing receiver)

end Routine

/-- What a procedure gives, with an interpretation for the calls it leads
    to. -/
def Procedure.run (inner : Interpretation) (st : Store) (p : Procedure)
    (receiver argument : Value) : Except Thrown Answer :=
  match p with
  | silent => .ok (.existing .undefined)
  | constant v => .ok (.existing v)
  | raising v => .error (.value v)
  | failing kind message => .error (.fault kind message)
  | routine r => r.run inner st receiver argument

namespace Interpretation

/-- The interpretation with the given calls, and with objects checked as they are when a
    program runs. Checking an object calls functions, but checks no others. -/
def ofCalls (call : Store → Procedure → Value → Value → Except Thrown Answer) :
    Interpretation where
  call := call
  check := Shape.check { call := call, check := fun _ _ _ => .error .tooDeep }

/-- Procedures run as described, with inner calls up to a level. -/
def level : Nat → Interpretation
  | 0 => ofCalls fun _ _ _ _ => .error .tooDeep
  | n + 1 => ofCalls (Procedure.run (level n))

/-- The interpretation with every procedure run as described. -/
def standard : Interpretation :=
  level 4

end Interpretation

end Stencil
