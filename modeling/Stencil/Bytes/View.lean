import Stencil.Number

/-!
# Views of Buffers

A view shows a stretch of a buffer as cells of one kind. Each kind holds
certain numbers, and any number that is written becomes one of those: its
fraction is dropped and what remains is taken modulo the range, except that
clamped octets round and then stop at the ends of their range.

## Main definitions

* `OctetClass`, `CellClass`: The kinds of views.
* `Window`: A stretch of a buffer.
* `OctetClass.hold`, `CellClass.hold`: What a cell holds after a number is
  written to it.
-/

namespace Stencil

/-- The kinds of byte views. -/
inductive OctetClass where
  | buffer
  | uint8Array
  | uint8ClampedArray
  | dataView
deriving DecidableEq

/-- The kinds of views of wider cells. -/
inductive CellClass where
  | int8Array
  | uint16Array
  | int32Array
  | float64Array
deriving DecidableEq

/-- A stretch of a larger buffer, which does not reach beyond its end. -/
structure Window (α : Type) where
  buffer : List α
  offset : Nat
  length : Nat
  fits : offset + length ≤ buffer.length
deriving DecidableEq

namespace Window

variable {α : Type}

/-- The cells of the buffer that a window shows. -/
def visible (w : Window α) : List α :=
  (w.buffer.drop w.offset).take w.length

/-- A whole buffer. -/
def whole (buffer : List α) : Window α :=
  ⟨buffer, 0, buffer.length, Nat.le_of_eq (Nat.zero_add _)⟩

/-- The window with one of its cells replaced; nothing outside it changes. -/
def set (w : Window α) (i : Nat) (a : α) : Window α :=
  if i < w.length then {
    w with
    buffer := w.buffer.set (w.offset + i) a
    fits := by rw [List.length_set]; exact w.fits }
  else w

end Window

/-- The octet nearest to a number, a half to the even neighbour. -/
def clampedOctet : Number → UInt8
  | .nan => 0
  | .infinite negative => if negative then 0 else 255
  | n => UInt8.ofNat (max 0 (min (n.nearestInt?.getD 0) 255)).toNat

/-- What an octet of a view holds after a number is written to it. -/
def OctetClass.hold (c : OctetClass) (n : Number) : UInt8 :=
  match c with
  | uint8ClampedArray => clampedOctet n
  | _ => UInt8.ofNat ((n.truncate?.getD 0) % twoTo 8).toNat

/-- What a cell of a view holds after a number is written to it. -/
def CellClass.hold (c : CellClass) (n : Number) : Number :=
  let whole := n.truncate?.getD 0
  match c with
  | int8Array => .ofInt (Int.bmod whole (twoTo 8))
  | uint16Array => .ofInt (whole % twoTo 16)
  | int32Array => .ofInt (Int.bmod whole (twoTo 32))
  | float64Array => n

end Stencil
