import Stencil.Bytes.Utf8
import Stencil.Store.Text

/-!
# Buffers Made of Values

The octets of a buffer that is made of a value. Of an array buffer it shows a stretch,
whose bounds can be any values, and have to lie inside as numbers. A text has its
octets in UTF-8, and the elements of a list become octets one by one. No buffer can be
made of other values.

## Main definitions

* `Store.stretch`: The octets of a stretch of an array buffer.
* `Store.octetsOf`: The octets of a buffer that is made of a value.
-/

namespace Stencil

namespace Store

variable (interp : Interpretation)

/-- The error of a bound that does not lie inside a buffer. -/
def outOfBounds (bound : String) : Thrown :=
  .fault .rangeError ("\"" ++ bound ++ "\" is outside of buffer bounds")

/-- The octets of a stretch of an array buffer, by default up to its end. -/
def stretch (st : Store) (octets : List UInt8) (offset length : Value) :
    Except Thrown (List UInt8) := do
  let offset := (← st.numberOf interp offset).position
  let rest := octets.length - offset
  if rest < 0 then throw (outOfBounds "offset")
  let length ← if length = .undefined then pure rest
    else (st.numberOf interp length).map Number.position
  if rest < length then throw (outOfBounds "length")
  if offset < 0 then
    throw (.fault .rangeError
      ("Start offset " ++ integerText offset ++ " is outside the bounds of the buffer"))
  return (octets.drop offset.toNat).take length.toNat

/-- What a value is called that no buffer can be made of. -/
def received (st : Store) : Value → Except Thrown String
  | .undefined => .ok "undefined"
  | .null => .ok "null"
  | .bigint n => .ok ("type bigint (" ++ integerText n ++ "n)")
  | .object r => do
    if (st.get r).isFunction then
      let (st, name) ← st.read interp r (.text "name")
      return "function " ++ (← st.textOf interp name)
    else return "an instance of " ++ (← st.typeName interp (.object r))
  | v => do return "type " ++ (← st.typeName interp v) ++ " (" ++ (← st.describe interp v) ++ ")"

/-- The octet that an element of a list becomes. -/
def octetOf (st : Store) (v : Value) : Except Thrown UInt8 := do
  return OctetClass.uint8Array.hold (← st.numberOf interp v)

/-- The octets of a buffer that is made of a value. The bounds are those of a stretch, if
    the value is an array buffer. -/
def octetsOf (st : Store) (source offset length : Value) : Except Thrown (List UInt8) := do
  match source with
  | .text s => return s.toUTF8.toList
  | .object r =>
    match (st.get r).body with
    | .arrayBuffer octets => return ← st.stretch interp octets offset length
    | .octets .dataView _ => return []
    | .octets _ w => return w.visible
    | .cells _ w => w.visible.mapM fun n => st.octetOf interp (.number n)
    | .array elements => elements.mapM fun element => st.octetOf interp (element.getD .undefined)
    | .boxed (.text s) => return s.toUTF8.toList
    | _ => refuse
  | _ => refuse
where
  /-- No buffer can be made of other values. -/
  refuse : Except Thrown (List UInt8) := do
    mistyped ("The first argument must be of type string or an instance of Buffer, ArrayBuffer, "
      ++ "or Array or an Array-like Object. Received " ++ (← st.received interp source))

end Store

end Stencil
