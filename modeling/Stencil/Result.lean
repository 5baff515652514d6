import Stencil.Store.Text

/-!
# Results

The outcome of an operation that may fail, as a value: an object that says
whether it succeeded and holds the data or the error.

Results are objects, so an operation that has nothing to do returns the very
result it was given. Anything can be an error. Where an error has to be
raised or caught, a value that is no error becomes one that carries its text.

What a result says is read from its properties, so other objects can take the
place of a result, and reading one can fail.

## Main definitions

* `Result.ok`, `Result.err`: Making results.
* `Result.view`: What a result says.
* `Result.map`, `Result.mapErr`, `Result.andThen`, `Result.all`: Combining
  results.
* `Result.unwrap`, `Result.unwrapOr`: Taking the data out.
* `Result.ofCall`, `Result.ofAwaited`: Running a function and catching what it
  raises.
-/

namespace Stencil

namespace Result

/-- What a result says. -/
inductive View where
  | ok (data : Value)
  | err (error : Value)
deriving DecidableEq

/-- A successful result, as an object. -/
def okObject (data : Value) : Object :=
  Object.plain [("success", .boolean true), ("data", data)]

/-- A failed result, as an object. -/
def errObject (error : Value) : Object :=
  Object.plain [("success", .boolean false), ("error", error)]

/-- Add a successful result. -/
def ok (st : Store) (data : Value) : Store × Value :=
  let (st, r) := st.allocate (okObject data)
  (st, .object r)

/-- Add a failed result. -/
def err (st : Store) (error : Value) : Store × Value :=
  let (st, r) := st.allocate (errObject error)
  (st, .object r)

/-- What a result says, in a store that holds it. Anything counts as a result;
    it succeeded if what it has as `success` counts as true. -/
def view (interp : Interpretation) (st : Store) (result : Value) :
    Except Thrown (Store × View) := do
  let (_, success) ← st.member interp result "success"
  if success.holds then
    let (st, data) ← st.member interp result "data"
    return (st, .ok data)
  else
    let (st, error) ← st.member interp result "error"
    return (st, .err error)

/-- Whether a result succeeded. -/
def succeeded (interp : Interpretation) (st : Store) (result : Value) : Except Thrown Bool := do
  return (← st.member interp result "success").2.holds

/-- Call a function with one argument. -/
def callOn (interp : Interpretation) (st : Store) (f : Ref) (v : Value) :
    Except Thrown (Store × Value) := do
  return (← st.call interp f .undefined v).settle st

/-- The data of a successful result; the error of a failed one is raised. -/
def unwrap (interp : Interpretation) (st : Store) (result : Value) :
    Except Thrown (Store × Value) := do
  match ← view interp st result with
  | (st, .ok data) => return (st, data)
  | (st, .err error) =>
    if st.isError error then throw (.value error)
    else throw (.fault .error (← st.describe interp error))

/-- The data of a successful result, or another value. -/
def unwrapOr (interp : Interpretation) (st : Store) (result other : Value) :
    Except Thrown (Store × Value) := do
  if ← succeeded interp st result then st.member interp result "data"
  else return (st, other)

/-- Apply a function to the data of a successful result. -/
def map (interp : Interpretation) (st : Store) (result : Value) (f : Ref) :
    Except Thrown (Store × Value) := do
  if ← succeeded interp st result then
    let (st, data) ← st.member interp result "data"
    let (st, v) ← callOn interp st f data
    return ok st v
  else return (st, result)

/-- Apply a function to the error of a failed result. -/
def mapErr (interp : Interpretation) (st : Store) (result : Value) (f : Ref) :
    Except Thrown (Store × Value) := do
  if ← succeeded interp st result then return (st, result)
  else
    let (st, error) ← st.member interp result "error"
    let (st, v) ← callOn interp st f error
    return err st v

/-- Go on with the data of a successful result. -/
def andThen (interp : Interpretation) (st : Store) (result : Value) (f : Ref) :
    Except Thrown (Store × Value) := do
  if ← succeeded interp st result then
    let (st, data) ← st.member interp result "data"
    callOn interp st f data
  else return (st, result)

/-- The data of all results, or the first that failed. -/
def dataOfAll (interp : Interpretation) : Store → List Value →
    Except Thrown (Store × (Value ⊕ List Value))
  | st, [] => .ok (st, .inr [])
  | st, result :: more => do
    if ← succeeded interp st result then
      let (st, data) ← st.member interp result "data"
      match ← dataOfAll interp st more with
      | (st, .inr rest) => return (st, .inr (data :: rest))
      | failed => return failed
    else return (st, .inl result)

/-- The data of all results in one, or the first that failed. -/
def all (interp : Interpretation) (st : Store) (results : List Value) :
    Except Thrown (Store × Value) := do
  match ← dataOfAll interp st results with
  | (st, .inl result) => return (st, result)
  | (st, .inr data) =>
    let (st, r) := st.allocate (Object.ofBody (.array (data.map some)))
    return ok st (.object r)

/-- The error that something raised becomes when it is caught. -/
def caught (interp : Interpretation) (st : Store) (raised : Thrown) :
    Except Thrown (Store × Value) :=
  let made (kind : ErrorKind) (message : String) : Store × Value :=
    let (st, r) := st.allocate (Object.error kind message)
    (st, .object r)
  match raised with
  | .fault kind message => .ok (made kind message)
  | .value v =>
    if st.isError v then .ok (st, v)
    else do return made .error (← st.describe interp v)

/-- The result of a computation: what it gives, or what it raises. -/
def ofOutcome (interp : Interpretation) (st : Store) (outcome : Except Thrown (Store × Value)) :
    Except Thrown (Store × Value) :=
  match outcome with
  | .ok (st, v) => .ok (ok st v)
  | .error raised => do
    let (st, error) ← caught interp st raised
    return err st error

/-- Run a function without an argument and catch what it raises. -/
def ofCall (interp : Interpretation) (st : Store) (f : Ref) : Except Thrown (Store × Value) :=
  ofOutcome interp st (callOn interp st f .undefined)

/-- Wait for a value. An object with a method `then` is asked to report its
    value; it reports none, but it can raise an error. -/
def awaited (interp : Interpretation) (st : Store) (v : Value) : Except Thrown (Store × Value) :=
  match v with
  | .object r => do
    match ← st.method? interp r "then" with
    | (inner, some (.function f)) =>
      let (inner, report) := inner.allocate (Object.ofBody (.function .silent))
      let _ ← inner.call interp f v (.object report)
      return (st, v)
    | _ => return (st, v)
  | v => .ok (st, v)

/-- Run a function without an argument, wait for what it gives, and catch what
    is raised. -/
def ofAwaited (interp : Interpretation) (st : Store) (f : Ref) : Except Thrown (Store × Value) :=
  ofOutcome interp st do
    let (st, v) ← callOn interp st f .undefined
    awaited interp st v

end Result

end Stencil
