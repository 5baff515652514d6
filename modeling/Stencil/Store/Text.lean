import Stencil.Bytes.Lossy
import Stencil.Store.Read

/-!
# Values as Plain Text

The text of any value, without quotes and without structure, as it is used
for a thrown value that has no message of its own.

An object is first asked for a simple value that stands for it. It has two
methods for that, `toString` and `valueOf`, from its family if from nowhere
else: an array joins the texts of its elements, an error shows its name and
its message, a plain object only says that it is one, a date is a number of
milliseconds. Which method is asked first depends on what the answer is for. A
method that gives another object does not count, and an object without
prototype may have no method at all; then nothing stands for it.

## Main definitions

* `Wanted`: What a simple value is wanted for.
* `Store.simple`: The simple value that stands for a value.
* `Store.textOf`, `Store.addedText`, `Store.numberOf`: The text and the number
  of a value.
* `Store.describe`: The text, which a symbol has as well.
* `Store.sequence`, `Store.joined`: The elements of an object, and as text.
-/

namespace Stencil

/-- What a simple value is wanted for: as a text, as a number, or as either of
    them. -/
inductive Wanted where
  | text
  | number
  | either
deriving DecidableEq

/-- The methods for a simple value, in the order in which they are asked. What
    derives from a date is rather a text than a number, and all else is rather
    a number. -/
def Wanted.methods (w : Wanted) (isDate : Bool) : List String :=
  match w, isDate with
  | text, _ | either, true => ["toString", "valueOf"]
  | number, _ | either, false => ["valueOf", "toString"]

namespace Store

/-- The error of an object that nothing stands for. -/
def noText : Thrown :=
  .fault .typeError "Cannot convert object to primitive value"

/-- The text of a simple value. A symbol has none. -/
def simpleText : Value → Except Thrown String
  | .undefined => .ok "undefined"
  | .null => .ok "null"
  | .boolean b => .ok (if b then "true" else "false")
  | .number n => .ok n.text
  | .bigint n => .ok (integerText n)
  | .text s => .ok s
  | .symbol _ => .error (.fault .typeError "Cannot convert a Symbol value to a string")
  | .object _ => .error noText

/-- The simple value that an answer is. -/
def simpleOf? : Answer → Option Value
  | .existing (.object _) | .fresh _ => none
  | .existing v => some v

/-! ### Sequences -/

/-- The most elements whose texts, however short, can stand in one text with
    commas between them. -/
def mostElements : Nat := twoTo 29 - 23

/-- What an object has under the indices up to its length, which is no more than
    a text can hold. A view has its cells. -/
def sequence (st : Store) (interp : Interpretation) (number : Store → Value → Except Thrown Number)
    (r : Ref) : Except Thrown (Store × List Value) :=
  let o := st.get r
  match o.body with
  | .array _ => st.elements interp r
  | _ =>
    if o.isView then st.elements interp r
    else do
      let (st, length) ← st.read interp r (.text "length")
      let count := lengthOf (← number st length)
      if mostElements < count then throw (.fault .rangeError "Invalid string length")
      (reader interp).elementsFrom r st 0 (List.replicate count none)

/-- The texts of elements; nothing for elements that are undefined or null. -/
def elementTexts (textOf : Value → Except Thrown String) :
    List Value → Except Thrown (List String)
  | [] => .ok []
  | v :: more => do
    let text ← match v with
      | .undefined | .null => .ok ""
      | v => textOf v
    let texts ← elementTexts textOf more
    return text :: texts

/-- How what an object holds is converted: to texts, and its length to a
    number. -/
structure Conversions where
  text : Store → Value → Except Thrown String
  number : Store → Value → Except Thrown Number

/-- The elements of an object as one text. -/
def joinedBy (st : Store) (interp : Interpretation) (inner : Conversions) (separator : String)
    (r : Ref) : Except Thrown String := do
  let (st, elements) ← st.sequence interp inner.number r
  return separator.intercalate (← elementTexts (inner.text st) elements)

/-! ### Simple values -/

/-- The text of an error: its name and its message, with a colon between them if
    there are both. -/
def errorText (st : Store) (interp : Interpretation) (inner : Conversions) (r : Ref) :
    Except Thrown String := do
  let (st, name) ← st.read interp r (.text "name")
  let name ← if name = .undefined then .ok "Error" else inner.text st name
  let (st, message) ← st.read interp r (.text "message")
  let message ← if message = .undefined then .ok "" else inner.text st message
  return if name = "" then message else if message = "" then name else name ++ ": " ++ message

/-- The text of a template: its class, its name and its source. -/
def templateText (st : Store) (interp : Interpretation) (inner : Conversions) (r : Ref) :
    Except Thrown String := do
  let (st, name) ← st.read interp r (.text "name")
  let label ← if name.holds then do pure (" [" ++ (← inner.text st name) ++ "]") else .ok ""
  match ← st.makerNameValue? interp r with
  | (_, none) => unreadable .undefined "name"
  | (st, some maker) =>
    let maker ← inner.text st maker
    let (st, source) ← st.read interp r (.text "source")
    return maker ++ label ++ ":\n\n" ++ (← inner.text st source)

/-- The text that the native method of a family gives for an object. -/
def nativeText (st : Store) (interp : Interpretation) (inner : Conversions) (r : Ref) (f : Family) :
    Except Thrown String :=
  match f, (st.get r).body with
  | .object, _ => .ok (st.kindText r)
  | .date, .date (some t) => .ok t.longText
  | .date, .date none => .ok "Invalid Date"
  | .date, _ => mistyped "this is not a Date object."
  | .pattern, _ => do
    let (st, source) ← st.read interp r (.text "source")
    let (st, flags) ← st.read interp r (.text "flags")
    return "/" ++ (← inner.text st source) ++ "/" ++ (← inner.text st flags)
  | .url, .url href => .ok href
  | .url, _ => misplacedPart f (.link .href) (st.shown r)
  | .octets .buffer, .octets _ w => .ok (String.ofList (Utf8.readLossy w.visible))
  | .function, .function _ => .ok "function"
  | .error _, _ => st.errorText interp inner r
  | .template _, _ => st.templateText interp inner r
  | f, .boxed v =>
    if v.wrapper = f then simpleText v
    else mistyped (f.name ++ ".prototype.toString requires that 'this' be a " ++ f.name)
  | f, _ => mistyped (f.name ++ ".prototype.toString requires that 'this' be a " ++ f.name)

/-- The simple value that the text of an object is by nature. A sequence joins
    its elements by whatever it has as a method for that; inside itself it has
    the empty text. -/
def nativeSimple (st : Store) (interp : Interpretation) (inner : Conversions) (joining : List Ref)
    (r : Ref) (f : Family) : Except Thrown (Option Value) :=
  if f.isSequence then do
    match ← st.method? interp r "join" with
    | (st, some (.function g)) => return simpleOf? (← st.call interp g (.object r) .undefined)
    | (st, some (.native .join _)) =>
      if r ∈ joining then return some (.text "")
      else return some (.text (← st.joinedBy interp inner "," r))
    | _ => return some (.text (st.kindText r))
  else do return some (.text (← st.nativeText interp inner r f))

/-- The simple value that an object gives under the name of a method. -/
def simpleBy (st : Store) (interp : Interpretation) (inner : Conversions) (joining : List Ref)
    (r : Ref) (name : String) : Except Thrown (Option Value) := do
  match ← st.method? interp r name with
  | (st, some (.function f)) => return simpleOf? (← st.call interp f (.object r) .undefined)
  | (st, some (.native .text f)) => st.nativeSimple interp inner joining r f
  | (st, some (.native m f)) => return simpleOf? (.existing (← st.nativeValue r m f))
  | (_, none) => return none

/-- The first simple value that an object gives under the names of methods. -/
def firstSimple (st : Store) (interp : Interpretation) (inner : Conversions) (joining : List Ref)
    (r : Ref) : List String → Except Thrown Value
  | [] => .error noText
  | name :: more => do
    match ← st.simpleBy interp inner joining r name with
    | some v => return v
    | none => firstSimple st interp inner joining r more

/-- The simple value that stands for a value, with a bound on the depth of
    arrays. `joining` are the objects whose text is being made. -/
def simpleWithin (interp : Interpretation) : Nat → List Ref → Wanted → Store → Value →
    Except Thrown Value
  | 0, _, _, _, _ => .error .tooDeep
  | bound + 1, joining, wanted, st, v =>
    match v with
    | .object r =>
      let inner : Conversions := {
        text := fun st v => do simpleText (← simpleWithin interp bound (r :: joining) .text st v)
        number := fun st v => do
          simpleNumber (← simpleWithin interp bound (r :: joining) .number st v) }
      match (st.get r).body, st.rootFamily? r with
      | .boxed (.symbol label), some .symbol => .ok (.symbol label)
      | _, _ => st.firstSimple interp inner joining r (wanted.methods (st.inherits r .date))
    | v => .ok v

/-- How deep arrays are followed: no further than there are objects. -/
def textDepth (st : Store) : Nat :=
  st.objects.size + 3

/-- The simple value that stands for a value. -/
def simple (st : Store) (interp : Interpretation) (wanted : Wanted) (v : Value) :
    Except Thrown Value :=
  simpleWithin interp st.textDepth [] wanted st v

/-- The text of a value. A symbol has none. -/
def textOf (st : Store) (interp : Interpretation) (v : Value) : Except Thrown String := do
  simpleText (← st.simple interp .text v)

/-- The text that a value adds to another text. -/
def addedText (st : Store) (interp : Interpretation) (v : Value) : Except Thrown String := do
  simpleText (← st.simple interp .either v)

/-- The number that a value is converted to. -/
def numberOf (st : Store) (interp : Interpretation) (v : Value) : Except Thrown Number := do
  simpleNumber (← st.simple interp .number v)

/-- The text of a value, where a symbol shows its label. -/
def describe (st : Store) (interp : Interpretation) (v : Value) : Except Thrown String :=
  match v with
  | .symbol label => .ok ("Symbol(" ++ label ++ ")")
  | v => st.textOf interp v

/-- The conversions of what an object holds whose elements are being joined. -/
def conversions (st : Store) (interp : Interpretation) (joining : List Ref) : Conversions where
  text inner v := do simpleText (← simpleWithin interp st.textDepth joining .text inner v)
  number inner v := do simpleNumber (← simpleWithin interp st.textDepth joining .number inner v)

/-- What an object gives when its elements are to be joined by a separator;
    `subject` is what it is called if it cannot do that. -/
def joinedWith (st : Store) (interp : Interpretation) (subject separator : String) (r : Ref) :
    Except Thrown Answer := do
  match ← st.method? interp r "join" with
  | (st, some (.function f)) => st.call interp f (.object r) (.text separator)
  | (st, some (.native .join _)) =>
    return .existing (.text (← st.joinedBy interp (st.conversions interp [r]) separator r))
  | _ => notFunction (subject ++ ".join")

/-- The elements of an array as text, with a comma and a space between them;
    the text of any other value. -/
def joined (st : Store) (interp : Interpretation) (v : Value) : Except Thrown Answer :=
  let whole : Except Thrown Answer := do return .existing (.text (← st.describe interp v))
  match v with
  | .object r =>
    match (st.get r).body with
    | .array _ => st.joinedWith interp "v" ", " r
    | _ => whole
  | _ => whole

end Store

end Stencil
