import ApiStubs.Text.Decimal
import ApiStubs.Text.Split

/-!
# Writing JSON

Compact JSON: no blanks, members and elements in the order given.  In strings the quote, the
backslash and the controls are escaped, everything else stands as it is.
-/

namespace ApiStubs.Json

/-- A hexadecimal digit in lower case. -/
def hexDigit (n : Nat) : Char := Char.ofNat (if n < 10 then n + 0x30 else n + 0x57)

/-- One character inside a string. -/
def writtenChar (c : Char) : List Char :=
  if c = '"' then ['\\', '"']
  else if c = '\\' then ['\\', '\\']
  else if c = '\n' then ['\\', 'n']
  else if c = '\r' then ['\\', 'r']
  else if c = '\t' then ['\\', 't']
  else if c.toNat = 0x08 then ['\\', 'b']
  else if c.toNat = 0x0C then ['\\', 'f']
  else if c.toNat < 0x20 then
    ['\\', 'u', '0', '0', hexDigit (c.toNat / 16), hexDigit (c.toNat % 16)]
  else [c]

/-- A string. -/
def writeText (s : String) : String :=
  String.ofList ('"' :: s.toList.flatMap writtenChar ++ ['"'])

/-- An array of written elements. -/
def writeList (elements : List String) : String :=
  "[" ++ Text.joinWith "," elements ++ "]"

/-- An object of names and written values. -/
def writeObject (members : List (String × String)) : String :=
  "\x7b" ++ Text.joinWith "," (members.map fun m => writeText m.1 ++ ":" ++ m.2) ++ "\x7d"

/-- A value that may be absent, written as `null`. -/
def writeOptional {α : Type} (write : α → String) : Option α → String
  | none => "null"
  | some a => write a

end ApiStubs.Json
