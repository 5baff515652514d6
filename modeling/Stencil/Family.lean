import Stencil.Bytes.View

/-!
# Families

The built-in kinds of objects.

A family has a name, which is that of its constructor, and it may be a special
case of another family. Objects of a family find there what they do not have
themselves.

## Main definitions

* `ErrorKind`, `Variant`: The kinds of errors and of templates.
* `Family`: The kinds of objects.
* `Family.name`: The name of the constructor of a family.
* `Family.ancestors`: A family and those that it is a special case of.
* `Family.label?`: The name under which all objects of a family show their
  kind.
-/

namespace Stencil

/-- The kinds of plain errors. -/
inductive ErrorKind where
  | error
  | typeError
  | rangeError
  | syntaxError
deriving DecidableEq

/-- The name of a kind of error. -/
def ErrorKind.name : ErrorKind → String
  | error => "Error"
  | typeError => "TypeError"
  | rangeError => "RangeError"
  | syntaxError => "SyntaxError"

/-- The ways in which a template fills its placeholders. -/
inductive Variant where
  /-- Writes values as its serializer does. -/
  | prompt
  /-- Writes values in capitals. -/
  | shouting
  /-- Writes values in parentheses. -/
  | quiet
deriving DecidableEq

/-- The name of a variant of templates. -/
def Variant.name : Variant → String
  | prompt => "PromptTemplate"
  | shouting => "ShoutingTemplate"
  | quiet => "QuietTemplate"

/-- The built-in kinds of objects. -/
inductive Family where
  | object
  | array
  | map
  | set
  | date
  | pattern
  | url
  | string
  | number
  | boolean
  | bigint
  | symbol
  /-- All views of cells. -/
  | typedArray
  | octets (c : OctetClass)
  | cells (c : CellClass)
  | arrayBuffer
  | function
  | error (kind : ErrorKind)
  | template (v : Variant)
  | logger
deriving DecidableEq

namespace Family

/-- The name of the constructor of a family. -/
def name : Family → String
  | object => "Object"
  | array => "Array"
  | map => "Map"
  | set => "Set"
  | date => "Date"
  | pattern => "RegExp"
  | url => "URL"
  | string => "String"
  | number => "Number"
  | boolean => "Boolean"
  | bigint => "BigInt"
  | symbol => "Symbol"
  | typedArray => "TypedArray"
  | octets .buffer => "Buffer"
  | octets .uint8Array => "Uint8Array"
  | octets .uint8ClampedArray => "Uint8ClampedArray"
  | octets .dataView => "DataView"
  | cells .int8Array => "Int8Array"
  | cells .uint16Array => "Uint16Array"
  | cells .int32Array => "Int32Array"
  | cells .float64Array => "Float64Array"
  | arrayBuffer => "ArrayBuffer"
  | function => "Function"
  | error kind => kind.name
  | template v => v.name
  | logger => "Logger"

/-- The family that a family is directly a special case of. -/
def parent? : Family → Option Family
  | object => none
  | octets .buffer => some (octets .uint8Array)
  | octets .dataView => some object
  | octets _ | cells _ => some typedArray
  | error .error => some object
  | error _ => some (error .error)
  | template .prompt => some object
  | template _ => some (template .prompt)
  | _ => some object

/-- A family and those that it is a special case of, down to the root. -/
def ancestors : Family → List Family
  | object => [object]
  | octets .buffer => [octets .buffer, octets .uint8Array, typedArray, object]
  | octets .dataView => [octets .dataView, object]
  | octets c => [octets c, typedArray, object]
  | cells c => [cells c, typedArray, object]
  | error .error => [error .error, object]
  | error kind => [error kind, error .error, object]
  | template .prompt => [template .prompt, object]
  | template v => [template v, template .prompt, object]
  | f => [f, object]

/-- Whether a family is another one or a special case of it. -/
def isA (f g : Family) : Bool :=
  f.ancestors.contains g

/-- The name under which all objects of a family show their kind. -/
def label? : Family → Option String
  | map => some "Map"
  | set => some "Set"
  | url => some "URL"
  | bigint => some "BigInt"
  | symbol => some "Symbol"
  | arrayBuffer => some "ArrayBuffer"
  | octets .dataView => some "DataView"
  | _ => none

/-- Whether the elements of what has a family as its own can be visited one
    after the other. -/
def isIterable : Family → Bool
  | array | map | set | string | typedArray | cells _ => true
  | octets c => c ≠ .dataView
  | _ => false

end Family

end Stencil
