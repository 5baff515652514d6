/-!
# Flaws of Patterns

What can be wrong with the body of a pattern.

## Main definitions

* `Pattern.Flaw`: What is wrong.
* `Pattern.Flaw.message`: The text that says so.
-/

namespace Stencil

namespace Pattern

/-- What is wrong with the body of a pattern. -/
inductive Flaw where
  /-- Nothing stands behind a backslash. -/
  | openEscape
  | wrongEscape
  | wrongUnicodeEscape
  | wrongDecimalEscape
  | wrongClassEscape
  | unknownProperty
  | unknownClassProperty
  | openClass
  | wrongClass
  /-- A range ends before it starts. -/
  | rangeOrder
  /-- A character that has to be escaped in a class. -/
  | bareInClass
  /-- A mark between operands that does not belong there. -/
  | wrongOperation
  /-- A complement of texts that are no characters. -/
  | textsExcluded
  | openGroup
  | unopenedGroup
  | wrongGroup
  | wrongName
  | nameTaken
  /-- No name stands where a group is referred to by its name. -/
  | namelessReference
  | unknownReference
  | nothingToRepeat
  | unrepeatable
  | openQuantifier
  /-- A quantifier with a maximum below its minimum. -/
  | quantifierOrder
  /-- A bracket or a brace that belongs to nothing. -/
  | loneBracket
deriving DecidableEq

/-- The text that says what is wrong. -/
def Flaw.message : Flaw → String
  | .openEscape => "\\ at end of pattern"
  | .wrongEscape => "Invalid escape"
  | .wrongUnicodeEscape => "Invalid Unicode escape"
  | .wrongDecimalEscape => "Invalid decimal escape"
  | .wrongClassEscape => "Invalid class escape"
  | .unknownProperty => "Invalid property name"
  | .unknownClassProperty => "Invalid property name in character class"
  | .openClass => "Unterminated character class"
  | .wrongClass => "Invalid character class"
  | .rangeOrder => "Range out of order in character class"
  | .bareInClass => "Invalid character in character class"
  | .wrongOperation => "Invalid set operation in character class"
  | .textsExcluded => "Negated character class may contain strings"
  | .openGroup => "Unterminated group"
  | .unopenedGroup => "Unmatched ')'"
  | .wrongGroup => "Invalid group"
  | .wrongName => "Invalid capture group name"
  | .nameTaken => "Duplicate capture group name"
  | .namelessReference => "Invalid named reference"
  | .unknownReference => "Invalid named capture referenced"
  | .nothingToRepeat => "Nothing to repeat"
  | .unrepeatable => "Invalid quantifier"
  | .openQuantifier => "Incomplete quantifier"
  | .quantifierOrder => "numbers out of order in \x7b\x7d quantifier"
  | .loneBracket => "Lone quantifier brackets"

end Pattern

end Stencil
