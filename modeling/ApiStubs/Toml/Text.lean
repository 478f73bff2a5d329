import ApiStubs.Toml.Fault

/-!
# Strings of a settings document

Four notations: between double quotes with escapes, between single quotes without any, and both
again between tripled quotes, where the text may run over several lines.
-/

namespace ApiStubs.Toml

/-- A step of reading: a result and the characters after it. -/
abbrev Scan (α : Type) : Type := Except Fault (α × List Char)

/-- Whether a character may stand for itself in a string or a comment. -/
def isPlain (c : Char) : Bool := c = '\t' || (0x20 ≤ c.toNat && c.toNat ≠ 0x7F)

/-- The value of a hexadecimal digit. -/
def hexDigit? (c : Char) : Option Nat :=
  let n := c.toNat
  if 0x30 ≤ n && n ≤ 0x39 then some (n - 0x30)
  else if 0x41 ≤ n && n ≤ 0x46 then some (n - 0x37)
  else if 0x61 ≤ n && n ≤ 0x66 then some (n - 0x57)
  else none

/-- The number that hexadecimal digits spell after those already read. -/
def hexNumber? (value : Nat) : List Char → Option Nat
  | [] => some value
  | c :: rest =>
    match hexDigit? c with
    | none => none
    | some d => hexNumber? (value * 16 + d) rest

/-- The character that hexadecimal digits spell; surrogates are none. -/
def hexChar? (digits : List Char) : Option Char :=
  match hexNumber? 0 digits with
  | none => none
  | some n => if n < 0xD800 || (0xE000 ≤ n && n ≤ 0x10FFFF) then some (Char.ofNat n) else none

/-- The character that a letter stands for after a backslash. -/
def shortEscape? (c : Char) : Option Char :=
  if c = 'b' then some (Char.ofNat 0x08)
  else if c = 't' then some '\t'
  else if c = 'n' then some '\n'
  else if c = 'f' then some (Char.ofNat 0x0C)
  else if c = 'r' then some '\r'
  else if c = 'e' then some (Char.ofNat 0x1B)
  else if c = '"' then some '"'
  else if c = '\\' then some '\\'
  else none

/-- A character in front of the text that was read after it. -/
def withChar (c : Option Char) (result : Scan (List Char)) : Scan (List Char) :=
  match c, result with
  | none, _ => .error .malformed
  | some _, .error e => .error e
  | some c, .ok (cs, rest) => .ok (c :: cs, rest)

/-- The text up to a double quote on the same line. -/
def basicText : List Char → Scan (List Char)
  | [] => .error .malformed
  | c :: rest =>
    if c = '"' then .ok ([], rest)
    else if c = '\\' then
      match rest with
      | 'x' :: a :: b :: more => withChar (hexChar? [a, b]) (basicText more)
      | 'u' :: a :: b :: c :: d :: more => withChar (hexChar? [a, b, c, d]) (basicText more)
      | 'U' :: a :: b :: c :: d :: e :: f :: g :: h :: more =>
        withChar (hexChar? [a, b, c, d, e, f, g, h]) (basicText more)
      | letter :: more => withChar (shortEscape? letter) (basicText more)
      | [] => .error .malformed
    else if isPlain c then withChar (some c) (basicText rest)
    else .error .malformed

/-- The text up to a single quote on the same line. -/
def literalText : List Char → Scan (List Char)
  | [] => .error .malformed
  | c :: rest =>
    if c = '\x27' then .ok ([], rest)
    else if isPlain c then withChar (some c) (literalText rest)
    else .error .malformed

/-- Whether nothing but blanks stands before the end of the line. -/
def lineIsBlank : List Char → Bool
  | [] => false
  | c :: rest =>
    if c = '\n' then true
    else if c = '\r' then rest.head? == some '\n'
    else if c = ' ' || c = '\t' then lineIsBlank rest
    else false

/-- The text up to three double quotes.  After a backslash at the end of a line, blanks and ends of
lines are left out up to the next other character. -/
def basicBlock : Bool → List Char → Scan (List Char)
  | _, [] => .error .malformed
  | skipping, c :: rest =>
    if c = '"' then
      match rest with
      | '"' :: '"' :: '"' :: '"' :: more => .ok (['"', '"'], more)
      | '"' :: '"' :: '"' :: more => .ok (['"'], more)
      | '"' :: '"' :: more => .ok ([], more)
      | _ => withChar (some '"') (basicBlock false rest)
    else if c = '\\' then
      match rest with
      | 'x' :: a :: b :: more => withChar (hexChar? [a, b]) (basicBlock false more)
      | 'u' :: a :: b :: c :: d :: more =>
        withChar (hexChar? [a, b, c, d]) (basicBlock false more)
      | 'U' :: a :: b :: c :: d :: e :: f :: g :: h :: more =>
        withChar (hexChar? [a, b, c, d, e, f, g, h]) (basicBlock false more)
      | letter :: more =>
        if lineIsBlank (letter :: more) then basicBlock true (letter :: more)
        else withChar (shortEscape? letter) (basicBlock false more)
      | [] => .error .malformed
    else if c = '\r' then
      match rest with
      | '\n' :: more =>
        if skipping then basicBlock true more
        else withChar (some '\r') (withChar (some '\n') (basicBlock false more))
      | _ => .error .malformed
    else if c = '\n' then
      if skipping then basicBlock true rest else withChar (some '\n') (basicBlock false rest)
    else if isPlain c then
      if skipping && (c = ' ' || c = '\t') then basicBlock true rest
      else withChar (some c) (basicBlock false rest)
    else .error .malformed

/-- The text up to three single quotes. -/
def literalBlock : List Char → Scan (List Char)
  | [] => .error .malformed
  | c :: rest =>
    if c = '\x27' then
      match rest with
      | '\x27' :: '\x27' :: '\x27' :: '\x27' :: more => .ok (['\x27', '\x27'], more)
      | '\x27' :: '\x27' :: '\x27' :: more => .ok (['\x27'], more)
      | '\x27' :: '\x27' :: more => .ok ([], more)
      | _ => withChar (some '\x27') (literalBlock rest)
    else if c = '\r' then
      match rest with
      | '\n' :: more => withChar (some '\r') (withChar (some '\n') (literalBlock more))
      | _ => .error .malformed
    else if c = '\n' || isPlain c then withChar (some c) (literalBlock rest)
    else .error .malformed

/-- The characters after an end of line that stands at the beginning. -/
def dropLineEnd : List Char → List Char
  | '\n' :: rest => rest
  | '\r' :: '\n' :: rest => rest
  | cs => cs

/-! ## Where a text ends

The end of a text can be told without reading its content, so that what follows a broken text is
still read. -/

/-- The characters after a text between double quotes.  A text that is not closed ends with its
line. -/
def afterBasic : List Char → List Char
  | [] => []
  | [c] => if c = '\n' then [c] else []
  | c :: d :: rest =>
    if c = '"' then d :: rest
    else if c = '\n' then c :: d :: rest
    else if c = '\\' && (d = '\\' || d = '"') then afterBasic rest
    else afterBasic (d :: rest)

/-- The characters after a text between single quotes. -/
def afterLiteral : List Char → List Char
  | [] => []
  | c :: rest => if c = '\x27' then rest else if c = '\n' then c :: rest else afterLiteral rest

/-- The characters after at most `n` more quotes. -/
def dropQuotes (quote : Char) : Nat → List Char → List Char
  | n + 1, c :: rest => if c = quote then dropQuotes quote n rest else c :: rest
  | _, cs => cs

/-- The characters after a text between tripled quotes, up to two of which belong to the text.  The
flag says whether a backslash takes away the meaning of what follows. -/
def afterBlock (quote : Char) (escapes : Bool) : List Char → List Char
  | [] => []
  | [_] => []
  | c :: d :: rest =>
    if c = quote && d = quote && rest.head? = some quote then dropQuotes quote 2 rest.tail
    else if escapes && c = '\\' && (d = '\\' || d = '"') then afterBlock quote escapes rest
    else afterBlock quote escapes (d :: rest)

/-- The content of a text, none if it is broken, and the characters after it. -/
def recover (result : Scan (List Char)) (after : List Char) : Option (List Char) × List Char :=
  match result with
  | .ok (content, rest) => (some content, rest)
  | .error _ => (none, after)

/-- The text that starts with a quote, in any of the four notations; none if no quote is there. -/
def scanText? (cs : List Char) : Option (Option (List Char) × List Char) :=
  match cs with
  | '"' :: '"' :: '"' :: rest =>
    some (recover (basicBlock false (dropLineEnd rest)) (afterBlock '"' true rest))
  | '\x27' :: '\x27' :: '\x27' :: rest =>
    some (recover (literalBlock (dropLineEnd rest)) (afterBlock '\x27' false rest))
  | '"' :: rest => some (recover (basicText rest) (afterBasic rest))
  | '\x27' :: rest => some (recover (literalText rest) (afterLiteral rest))
  | _ => none

/-- Whether a text starts here that may run over several lines. -/
def startsBlock : List Char → Bool
  | a :: b :: c :: _ => (a = '"' || a = '\x27') && a = b && b = c
  | _ => false

end ApiStubs.Toml
