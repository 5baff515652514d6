import Stencil.Family.Members
import Stencil.Number

/-!
# Makers of Families

What the constructors and the methods of the families have as functions.

Every function has a name and a number of parameters that it asks for, and a
constructor has some constants and functions of its own besides. Constants
cannot be changed.

## Main definitions

* `Family.isBuiltin`: Whether the functions of a family have no text of their
  own.
* `Family.makerArity`, `Family.methodArity`: The numbers of parameters.
* `Family.methodLabel`: The name of a method as a function.
* `Family.static?`: What a constructor has of its own.
-/

namespace Stencil

/-- What a constructor has of its own. -/
inductive Static where
  /-- A number that cannot be changed. -/
  | number (n : Number)
  /-- A number that can be changed. -/
  | setting (n : Nat)
  /-- A symbol that everybody knows. -/
  | symbol (label : String)
  /-- A function with a number of parameters. -/
  | function (arity : Nat)
deriving DecidableEq

/-- The number of parameters that a known method asks for. -/
def Method.arity : Method → Nat
  | setEntry | write => 2
  | join | push | add | setCells | setTime | serialize | checkKeys | derive | setDefault
  | substitute | equals | debug => 1
  | _ => 0

namespace Family

/-- Whether the functions of a family belong to what every program has. -/
def isBuiltin : Family → Bool
  | url | octets .buffer | template _ | logger => false
  | _ => true

/-- The number of parameters that the constructor of a family asks for. -/
def makerArity : Family → Nat
  | object | array | url | string | number | boolean | bigint | arrayBuffer | function | error _
  | octets .dataView => 1
  | pattern | template .prompt => 2
  | octets _ | cells _ => 3
  | date => 7
  | _ => 0

/-- The number of parameters that a method of a family asks for. -/
def methodArity (f : Family) (m : Method) : Nat :=
  match m, f with
  | .other name, f => (arityIn f.furtherMethods name).getD 0
  | .text, number => 1
  | .text, octets .buffer => 3
  | .json, date => 1
  | m, _ => m.arity

/-- The methods of buffers that are called otherwise as functions. -/
def bufferLabels : List (String × String) :=
  [("toLocaleString", "toString"), ("readBigUint64LE", "readBigUInt64LE"),
    ("readBigUint64BE", "readBigUInt64BE"), ("writeBigUint64LE", "writeBigUInt64LE"),
    ("writeBigUint64BE", "writeBigUInt64BE"), ("readUintLE", "readUIntLE"),
    ("readUint32LE", "readUInt32LE"), ("readUint16LE", "readUInt16LE"), ("readUint8", "readUInt8"),
    ("readUintBE", "readUIntBE"), ("readUint32BE", "readUInt32BE"),
    ("readUint16BE", "readUInt16BE"), ("writeUintLE", "writeUIntLE"),
    ("writeUint32LE", "writeUInt32LE"), ("writeUint16LE", "writeUInt16LE"),
    ("writeUint8", "writeUInt8"), ("writeUintBE", "writeUIntBE"),
    ("writeUint32BE", "writeUInt32BE"), ("writeUint16BE", "writeUInt16BE"),
    ("readFloatLE", "readFloatForwards"), ("readFloatBE", "readFloatBackwards"),
    ("readDoubleLE", "readDoubleForwards"), ("readDoubleBE", "readDoubleBackwards"),
    ("writeFloatLE", "writeFloatForwards"), ("writeFloatBE", "writeFloatBackwards"),
    ("writeDoubleLE", "writeDoubleForwards"), ("writeDoubleBE", "writeDoubleBackwards")]

/-- The name of a method as a function; a few methods have two names. -/
def methodLabel (f : Family) (name : String) : String :=
  match f, name with
  | set, "keys" => "values"
  | date, "toGMTString" => "toUTCString"
  | string, "trimLeft" => "trimStart"
  | string, "trimRight" => "trimEnd"
  | octets .buffer, name => (bufferLabels.lookup name).getD name
  | _, name => name

/-- The functions that a constructor has, by the number of their parameters. -/
def staticFunctions : Family → List (Nat × List String)
  | object => [
      (1, ["entries", "freeze", "fromEntries", "getOwnPropertyDescriptors", "getOwnPropertyNames",
        "getOwnPropertySymbols", "getPrototypeOf", "isExtensible", "isFrozen", "isSealed", "keys",
        "preventExtensions", "seal", "values"]),
      (2, ["assign", "create", "defineProperties", "getOwnPropertyDescriptor", "groupBy", "hasOwn",
        "is", "setPrototypeOf"]),
      (3, ["defineProperty"])]
  | array => [(0, ["of"]), (1, ["from", "fromAsync", "isArray"])]
  | typedArray => [(0, ["of"]), (1, ["from"])]
  | map => [(2, ["groupBy"])]
  | date => [(0, ["now"]), (1, ["parse"]), (7, ["UTC"])]
  | url => [(1, ["canParse", "createObjectURL", "parse", "revokeObjectURL"])]
  | string => [(1, ["fromCharCode", "fromCodePoint", "raw"])]
  | number => [
      (1, ["isFinite", "isInteger", "isNaN", "isSafeInteger", "parseFloat"]),
      (2, ["parseInt"])]
  | bigint => [(2, ["asIntN", "asUintN"])]
  | symbol => [(1, ["for", "keyFor"])]
  | arrayBuffer => [(1, ["isView"])]
  | error .error => [(2, ["captureStackTrace"])]
  | _ => []

/-- The symbols that everybody knows. -/
def knownSymbols : List String :=
  ["asyncIterator", "hasInstance", "isConcatSpreadable", "iterator", "match", "matchAll",
    "replace", "search", "species", "split", "toPrimitive", "toStringTag", "unscopables"]

/-- The constants of a constructor. -/
def constants : Family → List (String × Number)
  | number => [
      ("EPSILON", .dyadic false 1 (-52)),
      ("MAX_SAFE_INTEGER", .ofInt Number.maxSafe),
      ("MIN_SAFE_INTEGER", .ofInt (-Number.maxSafe)),
      ("MAX_VALUE", .dyadic false (twoTo 53 - 1) 971),
      ("MIN_VALUE", .dyadic false 1 (-1074)),
      ("NaN", .nan),
      ("NEGATIVE_INFINITY", .infinite true),
      ("POSITIVE_INFINITY", .infinite false)]
  | _ => []

/-- What the constructor of a family itself has of its own. -/
def ownStatic? (f : Family) (name : String) : Option Static :=
  match f.constants.lookup name, arityIn f.staticFunctions name, f.cellWidth? with
  | some n, _, _ => some (.number n)
  | none, some arity, _ => some (.function arity)
  | none, none, some width =>
    if name = "BYTES_PER_ELEMENT" then some (.number (.ofInt width)) else none
  | none, none, none =>
    if f = symbol && knownSymbols.contains name then some (.symbol ("Symbol." ++ name))
    else if f = error .error && name = "stackTraceLimit" then some (.setting 10)
    else none

/-- What the constructor of a family has of its own, or from those that the
    family is a special case of. -/
def static? (f : Family) (name : String) : Option Static :=
  (f.ancestors.filter fun g => g = f || g ≠ object).findSome? fun g => g.ownStatic? name

end Family

end Stencil
