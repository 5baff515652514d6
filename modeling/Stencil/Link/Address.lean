import Stencil.Link
import Stencil.Number.Reading

/-!
# Addresses in Links

Hosts that are numbers.

A short address has 32 bits. It is up to four numbers with dots between them, in
the base ten, eight or sixteen; the last number fills what the others leave. Its
normal form has four numbers of an octet each.

A long address is eight numbers of 16 bits in the base sixteen, with colons
between them. Two colons in a row stand for a stretch of zeros, and the last two
numbers can be a short address. In normal form the longest stretch of more than
one zero is left out.

## Main definitions

* `Address.short?`, `Address.showShort`: Short addresses.
* `Address.long?`, `Address.showLong`: Long addresses.
* `Address.isNumeric`: Whether a host has to be a short address.
-/

namespace Stencil

namespace Address

/-- The number that a text with its base in front stands for. -/
def number? (cs : List Char) : Option Nat :=
  match cs with
  | [] => none
  | '0' :: 'x' :: digits => Number.readDigits? 16 0 digits
  | '0' :: d :: digits => Number.readDigits? 8 0 (d :: digits)
  | digits => Number.readDigits? 10 0 digits

/-- The pieces between dots. Behind the last one there may be a dot. -/
def dotted (cs : List Char) : List (List Char) :=
  let pieces := Link.pieces (· == '.') cs
  if 1 < pieces.length && pieces.getLast? = some [] then pieces.dropLast else pieces

/-- Whether a host has to be a short address: whether its last piece is a
    number. -/
def isNumeric (host : List Char) : Bool :=
  match (dotted host).getLast? with
  | none | some [] => false
  | some ('0' :: 'x' :: digits) => (Number.readDigits? 16 0 digits).isSome
  | some digits => digits.all Char.isDigit

/-- The value of numbers that fill so many octets, the last one what the others
    leave. -/
def fill? : Nat → List Nat → Option Nat
  | _, [] => none
  | octets, [n] => if n < twoTo (8 * octets) then some n else none
  | octets, n :: more => do
    let rest ← fill? (octets - 1) more
    if n < 256 then return n * twoTo (8 * (octets - 1)) + rest else none

/-- The short address that a text stands for. -/
def short? (host : List Char) : Option Nat := do
  let numbers ← (dotted host).mapM number?
  if numbers.length ≤ 4 then fill? 4 numbers else none

/-- A short address in normal form. -/
def showShort (address : Nat) : List Char :=
  ['.'].intercalate
    ([twoTo 24, twoTo 16, twoTo 8, 1].map fun weight => Nat.toDigits 10 (address / weight % 256))

/-! ### Long addresses -/

/-- A number of 16 bits, by one to four digits in the base sixteen. -/
def word? (cs : List Char) : Option Nat :=
  if cs = [] || 4 < cs.length then none else Number.readDigits? 16 0 cs

/-- An octet in the base ten, without zeros in front. -/
def octet? (cs : List Char) : Option Nat := do
  let n ← Number.readDigits? 10 0 cs
  if n < 256 && cs = Nat.toDigits 10 n then return n else none

/-- The words that a short address at the end is. -/
def shortTail? (cs : List Char) : Option (List Nat) := do
  match ← (Link.pieces (· == '.') cs).mapM octet? with
  | [a, b, c, d] => return [a * 256 + b, c * 256 + d]
  | _ => none

/-- The words between colons. -/
def words? (cs : List Char) : Option (List Nat) :=
  if cs = [] then some []
  else do
    let pieces := Link.pieces (· == ':') cs
    let last := pieces.getLast?.getD []
    let tail ← if last.contains '.' then shortTail? last else (word? last).map fun n => [n]
    return (← pieces.dropLast.mapM word?) ++ tail

/-- A text cut at the first two colons in a row. -/
def cutAtGap : List Char → List Char × Option (List Char)
  | [] => ([], none)
  | ':' :: ':' :: rest => ([], some rest)
  | c :: rest =>
    let (before, found) := cutAtGap rest
    (c :: before, found)

/-- The long address that a text stands for. -/
def long? (cs : List Char) : Option (List Nat) := do
  match cutAtGap cs with
  | (before, none) =>
    let words ← words? before
    if words.length = 8 then return words else none
  | (before, some after) =>
    let first ← if before.contains '.' then none else words? before
    let last ← words? after
    let missing := 8 - first.length - last.length
    if missing = 0 then none else return first ++ List.replicate missing 0 ++ last

/-- How many zeros there are at the front. -/
def zeros (words : List Nat) : Nat :=
  (words.takeWhile (· == 0)).length

/-- The longest of the stretches of zeros that start at given places: the place
    and the length, of equal ones the first. -/
def longestGap (words : List Nat) (places : List Nat) : Nat × Nat :=
  places.foldl (fun best place =>
    let length := zeros (words.drop place)
    if best.2 < length then (place, length) else best) (0, 0)

/-- Words with colons between them. -/
def joinWords (words : List Nat) : List Char :=
  [':'].intercalate (words.map (Nat.toDigits 16))

/-- A long address in normal form. -/
def showLong (words : List Nat) : List Char :=
  let (place, length) := longestGap words (List.range words.length)
  if length ≤ 1 then joinWords words
  else joinWords (words.take place) ++ ':' :: ':' :: joinWords (words.drop (place + length))

end Address

end Stencil
