import ApiStubs.Json.Fault
import ApiStubs.Text.Utf8

/-!
# Lexical parts of JSON

The parts below a value: blanks, the fixed words, and strings.  Strings are read by a machine that
looks at one octet at a time, so the reader is a plain recursion on the input.
-/

namespace ApiStubs.Json

/-- A step of reading: a value and the octets after it. -/
abbrev Reader (α : Type) : Type := Bytes → Except Fault (α × Bytes)

/-- A result together with the octets after it. -/
def withRest {α : Type} (result : Except Fault α) (rest : Bytes) : Except Fault (α × Bytes) :=
  match result with
  | .error e => .error e
  | .ok a => .ok (a, rest)

/-- The blanks of JSON: space, line feed, carriage return, tab. -/
def isSpace (b : UInt8) : Bool := b == 0x20 || b == 0x0A || b == 0x0D || b == 0x09

/-- The octets after leading blanks. -/
def skipSpace (bytes : Bytes) : Bytes := bytes.dropWhile isSpace

/-- Whether the octet is a decimal digit. -/
def isDigit (b : UInt8) : Bool := 0x30 ≤ b && b ≤ 0x39

/-- The value of a decimal digit. -/
def digitValue (b : UInt8) : Nat := b.toNat - 0x30

/-- The rest of a fixed word whose first octet has been read. -/
def expectWord : Bytes → Bytes → Except Fault Bytes
  | [], bytes => .ok bytes
  | _ :: _, [] => .error .endInValue
  | w :: word, b :: bytes => if b = w then expectWord word bytes else .error .expectedIdent

/-- What is left of `null` after its first letter. -/
def nullTail : Bytes := [0x75, 0x6C, 0x6C]

/-- What is left of `true` after its first letter. -/
def trueTail : Bytes := [0x72, 0x75, 0x65]

/-- What is left of `false` after its first letter. -/
def falseTail : Bytes := [0x61, 0x6C, 0x73, 0x65]

/-! ## Strings -/

/-- The value of a hexadecimal digit. -/
def hexValue? (b : UInt8) : Option Nat :=
  if isDigit b then some (b.toNat - 0x30)
  else if 0x61 ≤ b && b ≤ 0x66 then some (b.toNat - 0x57)
  else if 0x41 ≤ b && b ≤ 0x46 then some (b.toNat - 0x37)
  else none

/-- The number written by hexadecimal digits, given what stands before them. -/
def hexNumber? : Nat → Bytes → Option Nat
  | n, [] => some n
  | n, b :: rest =>
    match hexValue? b with
    | none => none
    | some v => hexNumber? (n * 16 + v) rest

/-- The octet that a one-letter escape stands for. -/
def simpleEscape? (b : UInt8) : Option UInt8 :=
  if b = 0x22 then some 0x22
  else if b = 0x5C then some 0x5C
  else if b = 0x2F then some 0x2F
  else if b = 0x62 then some 0x08
  else if b = 0x66 then some 0x0C
  else if b = 0x6E then some 0x0A
  else if b = 0x72 then some 0x0D
  else if b = 0x74 then some 0x09
  else none

/-- Where the reader of a string stands. -/
inductive TextState where
  /-- between characters -/
  | plain
  /-- after a backslash -/
  | escape
  /-- inside the four digits of an escape, after a leading surrogate if one came before -/
  | hex (leading : Option Nat) (digits : Bytes)
  /-- after a leading surrogate, where a backslash is due -/
  | pairSlash (leading : Nat)
  /-- after a leading surrogate and a backslash, where a `u` is due -/
  | pairLetter (leading : Nat)
  deriving DecidableEq, Repr, Inhabited

/-- The octets of the character with a code point. -/
def codeBytes (n : Nat) : Bytes := String.utf8EncodeChar (Char.ofNat n)

/-- What four digits of an escape amount to: octets of a character, or a leading surrogate that
waits for its partner. -/
def finishHex (leading : Option Nat) (digits : Bytes) : Except Fault (Bytes ⊕ Nat) :=
  match hexNumber? 0 digits with
  | none => .error .invalidEscape
  | some n =>
    match leading with
    | none =>
      if 0xDC00 ≤ n ∧ n ≤ 0xDFFF then .error .loneSurrogate
      else if 0xD800 ≤ n ∧ n ≤ 0xDBFF then .ok (.inr n)
      else .ok (.inl (codeBytes n))
    | some high =>
      if 0xDC00 ≤ n ∧ n ≤ 0xDFFF then
        .ok (.inl (codeBytes (0x10000 + (high - 0xD800) * 0x400 + (n - 0xDC00))))
      else .error .loneSurrogate

/-- The content of a string up to its closing quote, with escapes replaced, and what follows it. -/
def textBytes : TextState → Bytes → Except Fault (Bytes × Bytes)
  | _, [] => .error .endInText
  | .plain, b :: rest =>
    if b = 0x22 then .ok ([], rest)
    else if b = 0x5C then textBytes .escape rest
    else if b < 0x20 then .error .controlCharacter
    else
      match textBytes .plain rest with
      | .error e => .error e
      | .ok (content, after) => .ok (b :: content, after)
  | .escape, b :: rest =>
    if b = 0x75 then textBytes (.hex none []) rest
    else
      match simpleEscape? b with
      | none => .error .invalidEscape
      | some octet =>
        match textBytes .plain rest with
        | .error e => .error e
        | .ok (content, after) => .ok (octet :: content, after)
  | .hex leading digits, b :: rest =>
    if digits.length < 3 then textBytes (.hex leading (digits ++ [b])) rest
    else
      match finishHex leading (digits ++ [b]) with
      | .error e => .error e
      | .ok (.inr high) => textBytes (.pairSlash high) rest
      | .ok (.inl octets) =>
        match textBytes .plain rest with
        | .error e => .error e
        | .ok (content, after) => .ok (octets ++ content, after)
  | .pairSlash high, b :: rest =>
    if b = 0x5C then textBytes (.pairLetter high) rest else .error .unpairedEscape
  | .pairLetter high, b :: rest =>
    if b = 0x75 then textBytes (.hex (some high) []) rest else .error .unpairedEscape

theorem textBytes_quote (rest : Bytes) : textBytes .plain (0x22 :: rest) = .ok ([], rest) := by
  simp [textBytes]

/-- A string whose opening quote has been read. -/
def scanText (bytes : Bytes) : Except Fault (String × Bytes) :=
  match textBytes .plain bytes with
  | .error e => .error e
  | .ok (content, after) =>
    match Utf8.decode? content with
    | none => .error .invalidUtf8
    | some s => .ok (s, after)

end ApiStubs.Json
