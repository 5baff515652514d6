import Stencil.Store.Read

/-!
# Checking

How objects are checked for a shape when a program runs.

The properties that a shape asks for are read one after the other, and each value is
compared with its schema. Keys that the shape does not know are an issue of their own,
as long as they are enumerable; here the prototypes of the object count as well. What is
wrong with a value is said in terms of the kind that it counts as.

## Main definitions

* `Checking.kindName`: What a value counts as in an issue.
* `Checking.enumerableNames`: The names that an object has for a check.
* `Shape.check`: What checking a value for a shape comes to.
-/

namespace Stencil

namespace Checking

/-- Whether an object can be waited for: it has the methods `then` and
    `catch`. -/
def isAwaitable (interp : Interpretation) (st : Store) (r : Ref) : Except Thrown Bool := do
  let (inner, next) ← st.read interp r (.text "then")
  if (inner.functionRef? next).isNone then return false
  let (inner, handler) ← st.read interp r (.text "catch")
  return (inner.functionRef? handler).isSome

/-- What a value counts as in an issue. -/
def kindName (interp : Interpretation) (st : Store) (v : Value) : Except Thrown String :=
  match v with
  | .undefined => .ok "undefined"
  | .null => .ok "null"
  | .boolean _ => .ok "boolean"
  | .number .nan => .ok "nan"
  | .number _ => .ok "number"
  | .bigint _ => .ok "bigint"
  | .text _ => .ok "string"
  | .symbol _ => .ok "symbol"
  | .object r =>
    match (st.get r).body with
    | .function _ => .ok "function"
    | .array _ => .ok "array"
    | _ => do
      if ← isAwaitable interp st r then return "promise"
      else if st.inherits r .map then return "map"
      else if st.inherits r .set then return "set"
      else if st.inherits r .date then return "date"
      else return "object"

/-- The message of an issue about a value of the wrong kind. -/
def expected (wanted kind : String) : String :=
  if kind = "undefined" then "Required" else "Expected " ++ wanted ++ ", received " ++ kind

/-- The message of an issue about a value that a schema does not accept. -/
def refusal (kind : String) : Schema → String
  | .string => expected "string" kind
  | .boolean => expected "boolean" kind
  | .custom _ message => message
  | .optional inner => refusal kind inner

/-- The issue of a value, if there is one. Its kind is found out in any case. -/
def issue? (interp : Interpretation) (st : Store) (key : String) (schema : Schema) (v : Value) :
    Except Thrown (Option Issue) := do
  let kind ← kindName interp st v
  return if schema.accepts st v then none
    else some { path := [key], message := refusal kind schema }

/-- What reading the properties that a shape asks for comes to: the issues of their
    values, and the values. -/
def readEach (interp : Interpretation) (r : Ref) :
    Store → Shape → Except Thrown (Store × List Issue × List (String × Value))
  | st, [] => .ok (st, [], [])
  | st, (key, schema) :: more => do
    let (st, v) ← st.read interp r (.text key)
    let issue ← issue? interp st key schema v
    let (st, issues, fields) ← readEach interp r st more
    return (st, issue.toList ++ issues, (key, v) :: fields)

/-- The texts that name properties of an object, enumerable or not. -/
def ownNames (o : Object) : List String :=
  o.enumerable.map Prod.fst ++ o.fields.texts.map Prod.fst
    ++ ["length", "lastIndex"].filter fun name => (o.bodyProperty? name).isSome

/-- The texts that name enumerable properties of an object or, not hidden by
    it, of its prototypes, given the names met before. -/
def enumerableNames (st : Store) : Nat → List String → Ref → List String
  | 0, _, _ => []
  | bound + 1, met, r =>
    let o := (st.expose r).get r
    let own := (o.enumerable.map Prod.fst).filter fun name => !met.contains name
    let met := met ++ ownNames o
    match o.prototype with
    | .none => own
    | .family f => own ++ f.enumerableNames.filter fun name => !met.contains name
    | .object next => own ++ enumerableNames st bound met next

/-- The issue of keys that are not asked for. -/
def unknownIssue (keys : List String) : List Issue :=
  if keys = [] then []
  else [{
    path := []
    message := "Unrecognized key(s) in object: "
      ++ ", ".intercalate (keys.map fun key => "'" ++ key ++ "'") }]

/-- What checking the properties of an object comes to. -/
def checkObject (interp : Interpretation) (st : Store) (shape : Shape) (r : Ref) :
    Except Thrown Checked := do
  let unknown := (enumerableNames st (st.objects.size + 1) [] r).filter
    fun key => (shape.lookup key).isNone
  let (after, issues, fields) ← readEach interp r st shape
  let issues := issues ++ unknownIssue unknown
  return {
    made := after.objects.toList.drop st.objects.size
    outcome := if issues = [] then .ok fields else .error issues }

end Checking

/-- What checking a value for a shape comes to. -/
def Shape.check (interp : Interpretation) (st : Store) (shape : Shape) (v : Value) :
    Except Thrown Checked := do
  let kind ← Checking.kindName interp st v
  match v, kind with
  | .object r, "object" => Checking.checkObject interp st shape r
  | _, kind =>
    return { outcome := .error [{ path := [], message := Checking.expected "object" kind }] }

end Stencil
