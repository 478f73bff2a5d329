import ApiStubs.Number.Shortest
import ApiStubs.Text.Quoted
import ApiStubs.Text.Split

/-!
# Why a JSON text is refused

A reader reports the first cause it meets, in reading order.  A cause is either a breach of the
notation or a value of a kind that the place does not take.
-/

namespace ApiStubs.Json

/-- The kind of value that was found where another was wanted. -/
inductive Found where
  | null
  | boolean (value : Bool)
  | integer (value : Int)
  | float (value : Binary64)
  | text (value : String)
  | sequence
  | map
  deriving DecidableEq, Repr, Inhabited

namespace Found

/-- How a diagnostic names the value. -/
def describe : Found → String
  | .null => "null"
  | .boolean true => "boolean `true`"
  | .boolean false => "boolean `false`"
  | .integer n => "integer `" ++ Text.decimal n ++ "`"
  | .float x => "floating point `" ++ x.compact ++ "`"
  | .text s => "string " ++ Text.quoted s
  | .sequence => "sequence"
  | .map => "map"

end Found

/-- Why reading stopped. -/
inductive Fault where
  /-- the text ended where a value was due -/
  | endInValue
  /-- the text ended inside an array -/
  | endInList
  /-- the text ended inside an object -/
  | endInObject
  /-- the text ended inside a string -/
  | endInText
  /-- no colon after a member name -/
  | expectedColon
  /-- neither a comma nor the end after an element -/
  | expectedListEnd
  /-- neither a comma nor the end after a member -/
  | expectedObjectEnd
  /-- no value starts here -/
  | expectedValue
  /-- a misspelled `null`, `true` or `false` -/
  | expectedIdent
  /-- a member name that is not a string -/
  | keyNotText
  /-- a comma before the end of an array or object -/
  | trailingComma
  /-- something after the value -/
  | trailingText
  /-- a malformed number -/
  | invalidNumber
  /-- a number beyond the finite doubles -/
  | outOfRange
  /-- an unknown escape, or hexadecimal digits that are none -/
  | invalidEscape
  /-- a leading surrogate with no second escape after it -/
  | unpairedEscape
  /-- a surrogate without its partner -/
  | loneSurrogate
  /-- octets that are not UTF-8 -/
  | invalidUtf8
  /-- a control character inside a string -/
  | controlCharacter
  /-- a value of another kind -/
  | invalidType (found : Found) (expected : String)
  /-- a value outside the wanted range -/
  | invalidValue (found : Found) (expected : String)
  /-- an array with too few elements for a record -/
  | invalidLength (length : Nat) (expected : String)
  /-- a record without a member it needs -/
  | missingField (name : String)
  /-- a record with a member given twice -/
  | duplicateField (name : String)
  /-- a name that is none of the known ones -/
  | unknownVariant (name : String) (known : List String)
  deriving DecidableEq, Repr, Inhabited

namespace Fault

/-- The text of the diagnostic. -/
def message : Fault → String
  | .endInValue => "EOF while parsing a value"
  | .endInList => "EOF while parsing a list"
  | .endInObject => "EOF while parsing an object"
  | .endInText => "EOF while parsing a string"
  | .expectedColon => "expected `:`"
  | .expectedListEnd => "expected `,` or `]`"
  | .expectedObjectEnd => "expected `,` or `\x7d`"
  | .expectedValue => "expected value"
  | .expectedIdent => "expected ident"
  | .keyNotText => "key must be a string"
  | .trailingComma => "trailing comma"
  | .trailingText => "trailing characters"
  | .invalidNumber => "invalid number"
  | .outOfRange => "number out of range"
  | .invalidEscape => "invalid escape"
  | .unpairedEscape => "unexpected end of hex escape"
  | .loneSurrogate => "lone leading surrogate in hex escape"
  | .invalidUtf8 => "invalid unicode code point"
  | .controlCharacter => "control character (\\u0000-\\u001F) found while parsing a string"
  | .invalidType found expected => "invalid type: " ++ found.describe ++ ", expected " ++ expected
  | .invalidValue found expected => "invalid value: " ++ found.describe ++ ", expected " ++ expected
  | .invalidLength n expected => "invalid length " ++ Text.decimalNat n ++ ", expected " ++ expected
  | .missingField name => "missing field `" ++ name ++ "`"
  | .duplicateField name => "duplicate field `" ++ name ++ "`"
  | .unknownVariant name known =>
    "unknown variant `" ++ name ++ "`, expected one of " ++
      Text.joinWith ", " (known.map fun k => "`" ++ k ++ "`")

end Fault

end ApiStubs.Json
