/-!
# Scalar types and the languages that spell them

A description names sixteen scalar types.  Every target language spells each of them in its own way;
several may share a spelling.  A name that is no scalar refers to a message or an enumeration and is
the same in every language.
-/

namespace ApiStubs

/-- The scalar types of a description. -/
inductive Scalar where
  | int
  | double
  | float
  | int32
  | int64
  | uint32
  | uint64
  | sint32
  | sint64
  | fixed32
  | fixed64
  | sfixed32
  | sfixed64
  | bool
  | string
  | bytes
  deriving DecidableEq, Repr, Inhabited

namespace Scalar

/-- All scalar types in their listing order. -/
def all : List Scalar :=
  [int, double, float, int32, int64, uint32, uint64, sint32, sint64, fixed32, fixed64, sfixed32,
    sfixed64, bool, string, bytes]

/-- The name of the type in a description. -/
def name : Scalar → String
  | int => "int"
  | double => "double"
  | float => "float"
  | int32 => "int32"
  | int64 => "int64"
  | uint32 => "uint32"
  | uint64 => "uint64"
  | sint32 => "sint32"
  | sint64 => "sint64"
  | fixed32 => "fixed32"
  | fixed64 => "fixed64"
  | sfixed32 => "sfixed32"
  | sfixed64 => "sfixed64"
  | bool => "bool"
  | string => "string"
  | bytes => "bytes"

/-- The scalar type with a name; names are case-sensitive. -/
def ofName? (text : String) : Option Scalar := all.find? (fun s => s.name == text)

end Scalar

/-- The target languages. -/
inductive Language where
  | typescript
  | go
  | java
  | php
  deriving DecidableEq, Repr, Inhabited

namespace Language

/-- The name of the language. -/
def name : Language → String
  | typescript => "typescript"
  | go => "go"
  | java => "java"
  | php => "php"

/-- The spelling of a scalar type in TypeScript. -/
def spellTypescript : Scalar → String
  | .bool => "boolean"
  | .string | .bytes => "string"
  | _ => "number"

/-- The spelling of a scalar type in Go. -/
def spellGo : Scalar → String
  | .int => "int"
  | .double => "float64"
  | .float => "float32"
  | .int32 | .sint32 | .sfixed32 => "int32"
  | .int64 | .sint64 | .sfixed64 => "int64"
  | .uint32 | .fixed32 => "uint32"
  | .uint64 | .fixed64 => "uint64"
  | .bool => "bool"
  | .string => "string"
  | .bytes => "[]byte"

/-- The spelling of a scalar type in Java, boxed so that it can stand inside `List<…>`. -/
def spellJava : Scalar → String
  | .double => "Double"
  | .float => "Float"
  | .int | .int32 | .uint32 | .sint32 | .fixed32 | .sfixed32 => "Integer"
  | .int64 | .uint64 | .sint64 | .fixed64 | .sfixed64 => "Long"
  | .bool => "Boolean"
  | .string => "String"
  | .bytes => "byte[]"

/-- The spelling of a scalar type in PHP. -/
def spellPhp : Scalar → String
  | .double | .float => "float"
  | .bool => "bool"
  | .string | .bytes => "string"
  | _ => "int"

/-- The spelling of a scalar type. -/
def spell : Language → Scalar → String
  | typescript => spellTypescript
  | go => spellGo
  | java => spellJava
  | php => spellPhp

/-- The spelling of a scalar type by its name. -/
def lookup? (language : Language) (typeName : String) : Option String :=
  (Scalar.ofName? typeName).map language.spell

/-- The spelling of a type: of a scalar as the language has it, of any other name unchanged. -/
def nativeType (language : Language) (typeName : String) : String :=
  (language.lookup? typeName).getD typeName

end Language

/-- Whether a type name is a scalar. -/
def isScalarName (typeName : String) : Bool := (Scalar.ofName? typeName).isSome

end ApiStubs
