import Stencil.Family
import Stencil.Link

/-!
# Members of Families

What the objects of a family find there under a name.

Some members compute a property of the object, some are methods whose effect
is known here, and of many methods only the names are listed: nothing calls
them, but they exist, and a path through properties can lead to them.

## Main definitions

* `Method`, `Part`, `Native`: Native members.
* `Family.member?`: The member that a family itself has under a name.
* `Family.native?`: The member that is found from a family on.
* `Family.enumerableNames`: The names of members that are enumerable.
-/

namespace Stencil

/-- The native methods whose effect is known. -/
inductive Method where
  /-- The text of the object. -/
  | text
  /-- The simple value that the object is around. -/
  | value
  /-- The form in which JSON shows the object. -/
  | json
  /-- The milliseconds of a date. -/
  | time
  /-- The text of a date in the extended format. -/
  | iso
  /-- The elements of the object as one text. -/
  | join
  /-- Append an element. -/
  | push
  /-- Set an entry of a map. -/
  | setEntry
  /-- Add an element to a set. -/
  | add
  /-- Write the elements of a sequence to the cells of a view. -/
  | setCells
  /-- Change the instant of a date. -/
  | setTime
  /-- What a template makes of a value. -/
  | serialize
  /-- What a template makes of the value for a key, as a text. -/
  | write
  /-- Refuse keys that name no placeholder. -/
  | checkKeys
  /-- A template with another source. -/
  | derive
  /-- A copy of a template. -/
  | copy
  /-- Store defaults. -/
  | setDefault
  /-- Fill some placeholders. -/
  | substitute
  /-- Fill all placeholders. -/
  | render
  /-- Fill all placeholders, with the error as part of the outcome. -/
  | safeRender
  /-- Compare templates. -/
  | equals
  /-- Log a message for debugging. -/
  | debug
  /-- A method of some other name. -/
  | other (name : String)
deriving DecidableEq

/-- The native properties that compute their value. -/
inductive Part where
  /-- The next object that a lookup goes to. -/
  | next
  | link (p : LinkPart)
  | source
  | flags
  /-- Whether a pattern has a flag. -/
  | flag (c : Char)
  | length
  | byteLength
  | byteOffset
  | buffer
  | size
  | description
  | maxByteLength
  /-- Whether a buffer can change its length. -/
  | resizable
  /-- Whether a buffer was given away. -/
  | detached
  | placeholders
  | defaults
  /-- The state of a template: its outline, its settings, its defaults and its
      logger. -/
  | outline
  | options
  | storedDefaults
  | journal
deriving DecidableEq

/-- A native member. -/
inductive Native where
  /-- The constructor of a family. -/
  | maker (f : Family)
  /-- A fixed text. -/
  | text (s : String)
  /-- A fixed number that cannot be written. -/
  | number (n : Nat)
  /-- A method, as a family has it. -/
  | method (m : Method) (f : Family)
  | part (p : Part)
deriving DecidableEq

namespace Family

/-- Whether a family has a text of its own for its objects. -/
def hasText : Family → Bool
  | map | set | arrayBuffer | octets .dataView | cells _ | logger => false
  | octets c => c = .buffer
  | error kind => kind = .error
  | template v => v = .prompt
  | _ => true

/-- Whether the objects of a family are around a simple value. -/
def hasValue : Family → Bool
  | object | date | string | number | boolean | bigint | symbol => true
  | _ => false

/-- Whether the objects of a family are sequences of elements. -/
def isSequence : Family → Bool
  | array | typedArray => true
  | _ => false

/-- How many octets a cell of a view takes. -/
def cellWidth? : Family → Option Nat
  | octets .uint8Array | octets .uint8ClampedArray | cells .int8Array => some 1
  | cells .uint16Array => some 2
  | cells .int32Array => some 4
  | cells .float64Array => some 8
  | _ => none

/-- The further methods of sequences, by the number of their parameters. -/
def sequenceMethods : List (Nat × List String) := [
  (0, ["entries", "keys", "reverse", "toLocaleString", "toReversed", "values"]),
  (1, ["at", "every", "fill", "filter", "find", "findIndex", "findLast", "findLastIndex", "forEach",
    "includes", "indexOf", "lastIndexOf", "map", "reduce", "reduceRight", "some", "sort",
    "toSorted"]),
  (2, ["copyWithin", "slice", "with"])]

/-- The further methods of a family, by the number of their parameters. -/
def furtherMethods : Family → List (Nat × List String)
  | object => [
      (0, ["toLocaleString"]),
      (1, ["hasOwnProperty", "isPrototypeOf", "propertyIsEnumerable", "__lookupGetter__",
        "__lookupSetter__"]),
      (2, ["__defineGetter__", "__defineSetter__"])]
  | function => [(1, ["bind", "call"]), (2, ["apply"])]
  | array => [
      (0, ["flat", "pop", "shift"]),
      (1, ["concat", "flatMap", "unshift"]),
      (2, ["splice", "toSpliced"])] ++ sequenceMethods
  | typedArray => (2, ["subarray"]) :: sequenceMethods
  | map => [
      (0, ["clear", "entries", "keys", "values"]),
      (1, ["delete", "forEach", "get", "has"])]
  | set => [
      (0, ["clear", "entries", "keys", "values"]),
      (1, ["delete", "difference", "forEach", "has", "intersection", "isDisjointFrom", "isSubsetOf",
        "isSupersetOf", "symmetricDifference", "union"])]
  | date => [
      (0, ["getDate", "getDay", "getFullYear", "getHours", "getMilliseconds", "getMinutes",
        "getMonth", "getSeconds", "getTimezoneOffset", "getUTCDate", "getUTCDay", "getUTCFullYear",
        "getUTCHours", "getUTCMilliseconds", "getUTCMinutes", "getUTCMonth", "getUTCSeconds",
        "getYear", "toDateString", "toGMTString", "toLocaleDateString", "toLocaleString",
        "toLocaleTimeString", "toTimeString", "toUTCString"]),
      (1, ["setDate", "setMilliseconds", "setUTCDate", "setUTCMilliseconds", "setYear"]),
      (2, ["setMonth", "setSeconds", "setUTCMonth", "setUTCSeconds"]),
      (3, ["setFullYear", "setMinutes", "setUTCFullYear", "setUTCMinutes"]),
      (4, ["setHours", "setUTCHours"])]
  | pattern => [(1, ["exec", "test"]), (2, ["compile"])]
  | string => [
      (0, ["big", "blink", "bold", "fixed", "isWellFormed", "italics", "normalize", "small",
        "strike", "sub", "sup", "toLocaleLowerCase", "toLocaleUpperCase", "toLowerCase",
        "toUpperCase", "toWellFormed", "trim", "trimEnd", "trimLeft", "trimRight", "trimStart"]),
      (1, ["anchor", "at", "charAt", "charCodeAt", "codePointAt", "concat", "endsWith", "fontcolor",
        "fontsize", "includes", "indexOf", "lastIndexOf", "link", "localeCompare", "match",
        "matchAll", "repeat", "search", "startsWith"]),
      (2, ["padEnd", "padStart", "replace", "replaceAll", "slice", "split", "substr", "substring"])]
  | number => [(0, ["toLocaleString"]), (1, ["toExponential", "toFixed", "toPrecision"])]
  | bigint => [(0, ["toLocaleString"])]
  | octets .dataView => [
      (1, ["getBigInt64", "getBigUint64", "getFloat32", "getFloat64", "getInt16", "getInt32",
        "getInt8", "getUint16", "getUint32", "getUint8"]),
      (2, ["setBigInt64", "setBigUint64", "setFloat32", "setFloat64", "setInt16", "setInt32",
        "setInt8", "setUint16", "setUint32", "setUint8"])]
  | octets .buffer => [
      (0, ["readBigUInt64LE", "readBigUInt64BE", "readBigUint64LE", "readBigUint64BE",
        "readBigInt64LE", "readBigInt64BE", "readUInt32LE", "readUInt16LE", "readUInt8",
        "readUInt32BE", "readUInt16BE", "readUint32LE", "readUint16LE", "readUint8", "readUint32BE",
        "readUint16BE", "readInt32LE", "readInt16LE", "readInt8", "readInt32BE", "readInt16BE",
        "readFloatLE", "readFloatBE", "readDoubleLE", "readDoubleBE", "asciiSlice", "base64Slice",
        "base64urlSlice", "latin1Slice", "hexSlice", "ucs2Slice", "utf8Slice", "base64Write",
        "base64urlWrite", "hexWrite", "ucs2Write", "swap16", "swap32", "swap64"]),
      (1, ["writeBigUInt64LE", "writeBigUInt64BE", "writeBigUint64LE", "writeBigUint64BE",
        "writeBigInt64LE", "writeBigInt64BE", "writeUInt32LE", "writeUInt16LE", "writeUInt8",
        "writeUInt32BE", "writeUInt16BE", "writeUint32LE", "writeUint16LE", "writeUint8",
        "writeUint32BE", "writeUint16BE", "writeInt32LE", "writeInt16LE", "writeInt8",
        "writeInt32BE", "writeInt16BE", "writeFloatLE", "writeFloatBE", "writeDoubleLE",
        "writeDoubleBE", "asciiWrite", "latin1Write", "utf8Write", "equals"]),
      (2, ["readUIntLE", "readUIntBE", "readUintLE", "readUintBE", "readIntLE", "readIntBE",
        "inspect", "subarray", "slice"]),
      (3, ["writeUIntLE", "writeUIntBE", "writeUintLE", "writeUintBE", "writeIntLE", "writeIntBE",
        "lastIndexOf", "indexOf", "includes", "toLocaleString"]),
      (4, ["copy", "fill", "write"]),
      (5, ["compare"])]
  | arrayBuffer => [
      (0, ["transfer", "transferToFixedLength"]),
      (1, ["resize"]),
      (2, ["slice"])]
  | logger => [
      (0, ["getLevel"]),
      (1, ["child", "configure", "error", "format", "info", "shouldLog", "warn"])]
  | _ => []

/-- How many parameters one of some methods has, if it is among them. -/
def arityIn (methods : List (Nat × List String)) (name : String) : Option Nat :=
  (methods.find? fun (_, names) => names.contains name).map Prod.fst

/-- The known methods of a family that are no other family's business. -/
def knownMethods : Family → List (String × Method)
  | array => [("push", .push)]
  | map => [("set", .setEntry)]
  | set => [("add", .add)]
  | typedArray => [("set", .setCells)]
  | date => [("toJSON", .json), ("getTime", .time), ("toISOString", .iso), ("setTime", .setTime)]
  | url | octets .buffer => [("toJSON", .json)]
  | template .prompt => [("setDefault", .setDefault), ("substitute", .substitute),
      ("render", .render), ("safeRender", .safeRender), ("serialize", .serialize),
      ("equals", .equals), ("derive", .derive), ("copy", .copy),
      ("assertKnownKeys", .checkKeys), ("serializeValue", .write)]
  | template .shouting => [("serialize", .serialize), ("derive", .derive)]
  | template .quiet => [("serialize", .serialize)]
  | logger => [("debug", .debug)]
  | _ => []

/-- The properties that a family computes. -/
def parts : Family → List (String × Part)
  | object => [("__proto__", .next)]
  | map | set => [("size", .size)]
  | pattern => [("source", .source), ("flags", .flags), ("hasIndices", .flag 'd'),
      ("global", .flag 'g'), ("ignoreCase", .flag 'i'), ("multiline", .flag 'm'),
      ("dotAll", .flag 's'), ("unicode", .flag 'u'), ("unicodeSets", .flag 'v'),
      ("sticky", .flag 'y')]
  | url => [("href", .link .href), ("origin", .link .origin), ("protocol", .link .scheme),
      ("username", .link .user), ("password", .link .password), ("host", .link .host),
      ("hostname", .link .hostname), ("port", .link .port), ("pathname", .link .path),
      ("search", .link .query), ("searchParams", .link .parameters), ("hash", .link .fragment)]
  | symbol => [("description", .description)]
  | typedArray => [("length", .length), ("byteLength", .byteLength), ("byteOffset", .byteOffset),
      ("buffer", .buffer)]
  | octets .dataView => [("byteLength", .byteLength), ("byteOffset", .byteOffset),
      ("buffer", .buffer)]
  | arrayBuffer => [("byteLength", .byteLength), ("maxByteLength", .maxByteLength),
      ("resizable", .resizable), ("detached", .detached)]
  | template .prompt => [("placeholders", .placeholders), ("defaults", .defaults)]
  | _ => []

/-- The fixed values that a family has. -/
def constant? (f : Family) (name : String) : Option Native :=
  match name, f with
  | "constructor", f => some (.maker f)
  | "name", .error kind => some (.text kind.name)
  | "message", .error _ => some (.text "")
  | "BYTES_PER_ELEMENT", f => f.cellWidth?.map .number
  | _, _ => none

/-- The member that a family itself has under a name. -/
def member? (f : Family) (name : String) : Option Native :=
  match f.constant? name with
  | some n => some n
  | none =>
    if name = "toString" && f.hasText then some (.method .text f)
    else if name = "valueOf" && f.hasValue then some (.method .value f)
    else if name = "join" && f.isSequence then some (.method .join f)
    else
      match f.knownMethods.lookup name, f.parts.lookup name with
      | some m, _ => some (.method m f)
      | none, some p => some (.part p)
      | none, none =>
        if (arityIn f.furtherMethods name).isSome then some (.method (.other name) f) else none

/-- The member that is found from a family on, with the family that has it. -/
def native? (f : Family) (name : String) : Option (Native × Family) :=
  f.ancestors.findSome? fun g => (g.member? name).map fun n => (n, g)

/-- The members of buffers, in their order. -/
def bufferNames : List String :=
  ["readBigUInt64LE", "readBigUInt64BE", "readBigUint64LE", "readBigUint64BE", "readBigInt64LE",
    "readBigInt64BE", "writeBigUInt64LE", "writeBigUInt64BE", "writeBigUint64LE",
    "writeBigUint64BE", "writeBigInt64LE", "writeBigInt64BE", "readUIntLE", "readUInt32LE",
    "readUInt16LE", "readUInt8", "readUIntBE", "readUInt32BE", "readUInt16BE", "readUintLE",
    "readUint32LE", "readUint16LE", "readUint8", "readUintBE", "readUint32BE", "readUint16BE",
    "readIntLE", "readInt32LE", "readInt16LE", "readInt8", "readIntBE", "readInt32BE",
    "readInt16BE", "writeUIntLE", "writeUInt32LE", "writeUInt16LE", "writeUInt8", "writeUIntBE",
    "writeUInt32BE", "writeUInt16BE", "writeUintLE", "writeUint32LE", "writeUint16LE",
    "writeUint8", "writeUintBE", "writeUint32BE", "writeUint16BE", "writeIntLE", "writeInt32LE",
    "writeInt16LE", "writeInt8", "writeIntBE", "writeInt32BE", "writeInt16BE", "readFloatLE",
    "readFloatBE", "readDoubleLE", "readDoubleBE", "writeFloatLE", "writeFloatBE",
    "writeDoubleLE", "writeDoubleBE", "asciiSlice", "base64Slice", "base64urlSlice",
    "latin1Slice", "hexSlice", "ucs2Slice", "utf8Slice", "asciiWrite", "base64Write",
    "base64urlWrite", "latin1Write", "hexWrite", "ucs2Write", "utf8Write", "parent", "offset",
    "copy", "toString", "equals", "inspect", "compare", "lastIndexOf", "indexOf", "includes",
    "fill", "write", "toJSON", "subarray", "slice", "swap16", "swap32", "swap64",
    "toLocaleString"]

/-- The names of the members of a family that are enumerable: those of links and
    of buffers are. -/
def enumerableNames : Family → List String
  | octets .buffer => bufferNames
  | url => "toString" :: url.parts.map Prod.fst ++ ["toJSON"]
  | _ => []

end Family

end Stencil
