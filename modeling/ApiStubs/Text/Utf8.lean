/-!
# UTF-8

Bytes are lists of octets.  `Utf8.encode` writes a text, `Utf8.decode?` reads one and refuses every
sequence that is not the shortest encoding of a scalar value: stray continuation octets, overlong
forms, surrogates, values past U+10FFFF and texts that end inside a character.
-/

namespace ApiStubs

/-- A sequence of octets. -/
abbrev Bytes : Type := List UInt8

namespace Utf8

/-- The octets of a text. -/
def encode (s : String) : Bytes := s.toList.flatMap String.utf8EncodeChar

/-- Whether an octet continues a character. -/
def isContinuation (b : UInt8) : Bool := 0x80 ≤ b && b ≤ 0xBF

/-- The character of a two-octet form. -/
def char2 (a b : UInt8) : Char :=
  Char.ofNat ((a.toNat - 0xC0) * 64 + (b.toNat - 0x80))

/-- The character of a three-octet form. -/
def char3 (a b c : UInt8) : Char :=
  Char.ofNat (((a.toNat - 0xE0) * 64 + (b.toNat - 0x80)) * 64 + (c.toNat - 0x80))

/-- The character of a four-octet form. -/
def char4 (a b c d : UInt8) : Char :=
  Char.ofNat ((((a.toNat - 0xF0) * 64 + (b.toNat - 0x80)) * 64 + (c.toNat - 0x80)) * 64 +
    (d.toNat - 0x80))

/-- The octets that may follow the first octet of a three-octet form. -/
def second3 (a b : UInt8) : Bool :=
  if a = 0xE0 then 0xA0 ≤ b && b ≤ 0xBF
  else if a = 0xED then 0x80 ≤ b && b ≤ 0x9F
  else isContinuation b

/-- The octets that may follow the first octet of a four-octet form. -/
def second4 (a b : UInt8) : Bool :=
  if a = 0xF0 then 0x90 ≤ b && b ≤ 0xBF
  else if a = 0xF4 then 0x80 ≤ b && b ≤ 0x8F
  else isContinuation b

/-- The characters of well-formed octets. -/
def chars? : Bytes → Option (List Char)
  | [] => some []
  | a :: rest =>
    if a < 0x80 then
      match chars? rest with
      | none => none
      | some cs => some (Char.ofNat a.toNat :: cs)
    else if 0xC2 ≤ a && a ≤ 0xDF then
      match rest with
      | b :: more =>
        if isContinuation b then
          match chars? more with
          | none => none
          | some cs => some (char2 a b :: cs)
        else none
      | [] => none
    else if 0xE0 ≤ a && a ≤ 0xEF then
      match rest with
      | b :: c :: more =>
        if second3 a b && isContinuation c then
          match chars? more with
          | none => none
          | some cs => some (char3 a b c :: cs)
        else none
      | _ => none
    else if 0xF0 ≤ a && a ≤ 0xF4 then
      match rest with
      | b :: c :: d :: more =>
        if second4 a b && isContinuation c && isContinuation d then
          match chars? more with
          | none => none
          | some cs => some (char4 a b c d :: cs)
        else none
      | _ => none
    else none

/-- The text of well-formed octets. -/
def decode? (bytes : Bytes) : Option String :=
  match chars? bytes with
  | none => none
  | some cs => some (String.ofList cs)

end Utf8

end ApiStubs
