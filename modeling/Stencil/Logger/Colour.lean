import Stencil.Level

/-!
# Coloured Messages

Messages that stand out on a terminal. Which text it takes to show a message in a
colour is told by a library, and may be nothing but the message, where no colours
are shown. So what is said of loggers is said for every palette.

On a terminal that shows colours, a colour is opened before the text and closed after
it. A close code inside the text would end the colour early, so it is followed by the
open code again; and since a terminal may fill the rest of a line, the colour is closed
before every line break and opened after it.

## Main definitions

* `Palette`: How messages are shown in colours.
* `Channel.paint`: A message as its channel shows it.
* `Palette.terminal`: The colours of a terminal.
-/

namespace Stencil

/-- How messages are shown in colours. -/
structure Palette where
  gray : String → String
  yellow : String → String
  red : String → String

/-- A message as its channel shows it: in gray, yellow or red, and in no colour if it is
    for information. -/
def Channel.paint (palette : Palette) : Channel → String → String
  | debug => palette.gray
  | info => id
  | warn => palette.yellow
  | error => palette.red

/-! ### Terminals -/

/-- The code that returns to the default colour. -/
def closeColour : List Char :=
  ['\x1b', '[', '3', '9', 'm']

/-- The text with the colour opened again after each close code. -/
def reopenColour (openCode : List Char) : List Char → List Char
  | '\x1b' :: '[' :: '3' :: '9' :: 'm' :: cs =>
    closeColour ++ openCode ++ reopenColour openCode cs
  | c :: cs => c :: reopenColour openCode cs
  | [] => []

/-- The text with the colour closed before each line break and opened after
    it. -/
def breakColour (openCode : List Char) : List Char → List Char
  | '\r' :: '\n' :: cs => closeColour ++ '\r' :: '\n' :: openCode ++ breakColour openCode cs
  | '\n' :: cs => closeColour ++ '\n' :: openCode ++ breakColour openCode cs
  | c :: cs => c :: breakColour openCode cs
  | [] => []

/-- A text in the colour of a number; nothing stays nothing. -/
def coloured (number : String) (text : String) : String :=
  let openCode := '\x1b' :: '[' :: number.toList ++ ['m']
  if text = "" then ""
  else String.ofList
    (openCode ++ breakColour openCode (reopenColour openCode text.toList) ++ closeColour)

/-- The colours of a terminal. -/
def Palette.terminal : Palette where
  gray := coloured "90"
  yellow := coloured "33"
  red := coloured "31"

end Stencil
