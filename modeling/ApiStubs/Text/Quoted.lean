import ApiStubs.Text.PrintData

/-!
# Quoted text

A text between double quotes, for diagnostics and for texts inside printed lists and maps.  Quotes,
backslashes, the common controls and the null character have short escapes; characters that would
not show, or would attach to their neighbour, are spelled by code point.
-/

namespace ApiStubs.Text

/-- The escape that spells a code point in hexadecimal. -/
def codeEscape (c : Char) : List Char :=
  ['\\', 'u', '\x7b'] ++ Nat.toDigits 16 c.toNat ++ ['\x7d']

/-- One character as it stands between quotes. -/
def quotedChar (c : Char) : List Char :=
  if c = '"' then ['\\', '"']
  else if c = '\\' then ['\\', '\\']
  else if c = '\n' then ['\\', 'n']
  else if c = '\r' then ['\\', 'r']
  else if c = '\t' then ['\\', 't']
  else if c = Char.ofNat 0 then ['\\', '0']
  else if 0x20 ≤ c.toNat && c.toNat ≤ 0x7E then [c]
  else if inRanges graphemeExtendRanges c.toNat || inRanges fillerRanges c.toNat ||
      inRanges invisibleRanges c.toNat then codeEscape c
  else [c]

/-- The text between double quotes. -/
def quoted (s : String) : String :=
  String.ofList ('"' :: s.toList.flatMap quotedChar ++ ['"'])

end ApiStubs.Text
