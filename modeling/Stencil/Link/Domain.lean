import Stencil.Link
import Stencil.Text.Composition
import Stencil.Text.Folding
import Stencil.Text.Identifier
import Stencil.Text.Punycode
import Stencil.Text.Unnamed

/-!
# Names of Hosts

The name of a host in the letters that hosts are looked up by.

Characters are taken for those in which names are compared, every full stop for a
dot, and what cannot be seen is left out. A label of other than basic characters
is then written in basic ones, and one that is so written already has to stand for
a label that is in this form.

Letters that are read from right to left do not go together with others in one
label, and joiners stand only where they change the writing.

## Main definitions

* `Domain.fold`: A text in the form in which names are compared.
* `Domain.toBasic?`: A name in basic characters.
-/

namespace Stencil

namespace Domain

/-- Whether a character lies between two others. -/
def isBetween (first last : Nat) (c : Char) : Bool :=
  first ≤ c.toNat && c.toNat ≤ last

/-- Characters that cannot be seen. -/
def isIgnored (c : Char) : Bool :=
  [0xAD, 0x34F, 0x180B, 0x180C, 0x180D, 0x180F, 0x200B, 0x2060, 0x2064, 0xFEFF].contains c.toNat
    || isBetween 0xFE00 0xFE0F c || isBetween 0x1BCA0 0x1BCA3 c || isBetween 0xE0100 0xE01EF c

/-- The full stops of other scripts. -/
def isStop (c : Char) : Bool :=
  [0x3002, 0xFF0E, 0xFF61].contains c.toNat

/-- The form of a character in which names are compared. -/
def foldChar (c : Char) : List Char :=
  if isIgnored c then [] else if isStop c then ['.'] else folded c

/-- A text in the form in which names are compared. -/
def fold (cs : List Char) : List Char :=
  Composition.compose (cs.flatMap foldChar)

/-! ### Labels -/

/-- Whether a character has no place in a name. -/
def isRefused (c : Char) : Bool :=
  isWithin unnamedRanges c.toNat

/-- Whether a character continues the one before it. -/
def isMark (c : Char) : Bool :=
  Composition.markClass c ≠ 0

/-- Whether a character is a letter that is read from right to left. -/
def isLeftward (c : Char) : Bool :=
  startsIdentifier c && (isBetween 0x590 0x8FF c || isBetween 0xFB1D 0xFDFF c
    || isBetween 0xFE70 0xFEFE c || isBetween 0x10800 0x10FFF c || isBetween 0x1E800 0x1EFFF c)

/-- Whether a character is a digit of the Arabic script. -/
def isArabicDigit (c : Char) : Bool :=
  isBetween 0x660 0x669 c

/-- Whether a character is any other digit that goes with letters read from right to
    left. -/
def isCommonDigit (c : Char) : Bool :=
  c.isDigit || isBetween 0x6F0 0x6F9 c

/-- Whether the letters of a label go together: all of them are read from left to
    right, or all from right to left, and then the label starts and ends with what
    can be read so and has digits of one kind. -/
def isDirected (label : List Char) : Bool :=
  let last := (label.reverse.find? fun c => !isMark c).getD ' '
  !label.any isLeftward
    || ((label.head?.map isLeftward).getD false
      && (isLeftward last || isCommonDigit last || isArabicDigit last)
      && !(label.any isCommonDigit && label.any isArabicDigit)
      && label.all fun c => isLeftward c || !startsIdentifier c)

/-- Whether a character is a mark that takes the vowel from a letter. -/
def isVirama (c : Char) : Bool :=
  Composition.markClass c = 9

/-- Letters of the Arabic script that are joined with the letter before, but not
    with the one behind. -/
def isLastInGroup (c : Char) : Bool :=
  isBetween 0x622 0x625 c || isBetween 0x62F 0x632 c || isBetween 0x671 0x673 c
    || isBetween 0x675 0x677 c || isBetween 0x688 0x699 c || isBetween 0x6C3 0x6CB c
    || [0x627, 0x629, 0x648, 0x6C0, 0x6CD, 0x6CF, 0x6D2, 0x6D3, 0x6D5, 0x6EE, 0x6EF].contains
      c.toNat

/-- Letters of the Arabic script that are joined with the letter before. -/
def isJoined (c : Char) : Bool :=
  isBetween 0x620 0x6FF c && startsIdentifier c && c.toNat ≠ 0x621 && c.toNat ≠ 0x674

/-- Whether the joiners of a label, given what is before it from the last character
    on, stand where they change the writing: behind a mark that takes the vowel, or
    for the one that keeps letters apart also between letters that would be
    joined. -/
def joinersFit (before : List Char) : List Char → Bool
  | [] => true
  | c :: cs =>
    let isBase (c : Char) : Bool := !isMark c
    let bound := (before.head?.map isVirama).getD false
    let apart := ((before.find? isBase).map fun c => isJoined c && !isLastInGroup c).getD false
      && ((cs.find? isBase).map isJoined).getD false
    (c != '\u200d' || bound) && (c != '\u200c' || bound || apart) && joinersFit (c :: before) cs

/-- Whether a label of any characters can stand in a name. -/
def isLabel (label : List Char) : Bool :=
  !(label.head?.map isMark).getD true && !label.any isRefused && isDirected label
    && joinersFit [] label

/-- What a label in basic characters starts with if it stands for another. -/
def mark : List Char :=
  "xn--".toList

/-- A label in basic characters. -/
def label? (label : List Char) : Option (List Char) :=
  if mark.isPrefixOf label then do
    let meant ← Punycode.decode? (label.drop mark.length)
    if label.all Punycode.isBasic && !meant.all Punycode.isBasic && fold meant = meant
        && isLabel meant then
      return label
    else none
  else if label.all Punycode.isBasic then some label
  else if isLabel label then some (mark ++ Punycode.encode label)
  else none

/-- A name in basic characters. -/
def toBasic? (name : List Char) : Option (List Char) := do
  return ['.'].intercalate (← (Link.pieces (· == '.') (fold name)).mapM label?)

end Domain

end Stencil
