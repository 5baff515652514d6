import Stencil.Template.Exposed.Basic

/-!
# Splicing, Exposed

Replacing placeholders where the source, the occurrences and the replacements
are values.

The result is put together from slices of the source and replacements, as for
texts. But a position can be any value that a number can be made of, slicing
is a method that the source needs to have, and what does not come out as a
text is converted when it is added to the result.

## Main definitions

* `Exposed.sliced`: A part of a source.
* `Exposed.splice`: The source with its occurrences replaced.
-/

namespace Stencil

namespace Exposed

variable (interp : Interpretation)

/-- The position that an argument stands for; the default where there is
    none. -/
def positionOf (st : Store) (default : Int) (v : Option Value) : Except Thrown Int :=
  match v with
  | none | some .undefined => .ok default
  | some v => do return (← st.numberOf interp v).position

/-- The elements of a list between two positions. -/
def between {α : Type} (elements : List α) (start stop : Int) : List α :=
  let first := clampPosition elements.length start
  let last := clampPosition elements.length stop
  (elements.drop first).take (last - first)

/-- The part of a sequence between the positions that arguments stand for. -/
def elementsBetween {α : Type} (st : Store) (elements : List α) (arguments : List Value) :
    Except Thrown (List α) := do
  let start ← positionOf interp st 0 (arguments[0]?)
  let stop ← positionOf interp st elements.length (arguments[1]?)
  return between elements start stop

/-- What slicing gives by nature: of a text a text, and of a list a new list. -/
def sliceNatively (st : Store) (source : Value) (arguments : List Value) (f : Family) :
    Except Thrown (Store × Value) := do
  match f, source with
  | .string, source =>
    let us ← elementsBetween interp st (codeUnits (← st.textOf interp source).toList) arguments
    return (st, .text (String.ofList (ofCodeUnits us)))
  | f, .object r =>
    match f, (st.get r).body with
    | _, .octets c w =>
      let cells ← elementsBetween interp st w.visible arguments
      return st.allocateValue (Object.ofBody (.octets c (.whole cells)))
    | _, .cells c w =>
      let cells ← elementsBetween interp st w.visible arguments
      return st.allocateValue (Object.ofBody (.cells c (.whole cells)))
    | .array, _ =>
      let (st, elements) ← st.sequence interp (fun st v => st.numberOf interp v) r
      return st.allocateArray (← elementsBetween interp st elements arguments)
    | _, _ => return (st, source)
  | _, _ => return (st, source)

/-- A part of a source, between the positions that arguments stand for. -/
def sliced (source : Value) (arguments : Action (List Value)) : Action Value :=
  invoke interp "source" source "slice" arguments fun f arguments =>
    Action.reading fun st => sliceNatively interp st source arguments f

/-- The text that a value adds to the result. -/
def added (v : Value) : Action String :=
  Action.looking fun st => st.addedText interp v

/-- The result from a position of the source on, behind what there is of it,
    given the occurrences still to come. -/
def spliceFrom (source : Value) (replacements : List (Value × Value)) :
    String → Value → List Value → Action String
  | output, position, [] => do
    return output ++ (← added interp (← sliced interp source (pure [position])))
  | output, position, occurrence :: more => do
    let name ← part interp occurrence "name"
    match valueAt? name replacements with
    | none | some .undefined => spliceFrom source replacements output position more
    | some replacement => do
      let piece ← sliced interp source do
        return [position, ← part interp occurrence "start"]
      let piece ← added interp piece
      let text ← added interp replacement
      let position ← part interp occurrence "end"
      spliceFrom source replacements (output ++ piece ++ text) position more

/-- The source with every occurrence that has a replacement exchanged for
    it. -/
def splice (source occurrences : Value) (replacements : List (Value × Value)) : Action String := do
  let occurrences ← Action.reading fun st =>
    st.visit interp "occurrences is not iterable" occurrences
  spliceFrom interp source replacements "" (Store.countValue 0) occurrences

end Exposed

end Stencil
