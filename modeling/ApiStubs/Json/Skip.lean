import ApiStubs.Json.Number

/-!
# Passing over a value

A member with an unknown name is passed over: its value must be well formed, but numbers in it have
no range, strings need not be UTF-8 and nesting has no limit.  The nesting is kept in a list of open
brackets rather than in the recursion.
-/

namespace ApiStubs.Json

/-- Where the reader of a passed-over string stands. -/
inductive SkipState where
  /-- between characters -/
  | plain
  /-- after a backslash -/
  | escape
  /-- inside the four digits of an escape -/
  | hex (digits : Bytes)
  deriving DecidableEq, Repr, Inhabited

/-- What follows a string whose opening quote has been read. -/
def skipText : SkipState → Bytes → Except Fault Bytes
  | _, [] => .error .endInText
  | .plain, b :: rest =>
    if b = 0x22 then .ok rest
    else if b = 0x5C then skipText .escape rest
    else if b < 0x20 then .error .controlCharacter
    else skipText .plain rest
  | .escape, b :: rest =>
    if b = 0x75 then skipText (.hex []) rest
    else if (simpleEscape? b).isSome then skipText .plain rest
    else .error .invalidEscape
  | .hex digits, b :: rest =>
    if digits.length < 3 then skipText (.hex (digits ++ [b])) rest
    else if (hexNumber? 0 (digits ++ [b])).isSome then skipText .plain rest
    else .error .invalidEscape

/-- At least one digit, and what follows the digits. -/
def skipDigits (bytes : Bytes) : Except Fault Bytes :=
  if (bytes.takeWhile isDigit).isEmpty then .error .invalidNumber
  else .ok (bytes.dropWhile isDigit)

/-- What follows an exponent whose mark has been read. -/
def skipExponent (bytes : Bytes) : Except Fault Bytes :=
  match bytes with
  | b :: rest => if b = 0x2B ∨ b = 0x2D then skipDigits rest else skipDigits bytes
  | [] => .error .invalidNumber

/-- What follows the parts of a number after its integer digits. -/
def skipNumberTail (bytes : Bytes) : Except Fault Bytes :=
  match bytes with
  | [] => .ok []
  | b :: rest =>
    if b = 0x2E then
      match skipDigits rest with
      | .error e => .error e
      | .ok [] => .ok []
      | .ok (c :: more) => if isExponentMark c then skipExponent more else .ok (c :: more)
    else if isExponentMark b then skipExponent rest
    else .ok bytes

/-- What follows a number after its sign. -/
def skipNumber (bytes : Bytes) : Except Fault Bytes :=
  match bytes with
  | [] => .error .invalidNumber
  | b :: rest =>
    if b = 0x30 then
      match rest with
      | c :: _ => if isDigit c then .error .invalidNumber else skipNumberTail rest
      | [] => .ok []
    else
      match skipDigits bytes with
      | .error e => .error e
      | .ok after => skipNumberTail after

/-- An open bracket. -/
inductive Bracket where
  | list
  | object
  deriving DecidableEq, Repr, Inhabited

namespace Bracket

/-- The octet that closes the bracket. -/
def close : Bracket → UInt8
  | .list => 0x5D
  | .object => 0x7D

/-- The text ended inside the bracket. -/
def ended : Bracket → Fault
  | .list => .endInList
  | .object => .endInObject

/-- Neither a comma nor the closing bracket. -/
def unfinished : Bracket → Fault
  | .list => .expectedListEnd
  | .object => .expectedObjectEnd

end Bracket

/-- What is due next while passing over a value. -/
inductive Due where
  /-- a value -/
  | value
  /-- a member name and its colon -/
  | key
  /-- the first element or member, or the closing bracket -/
  | first
  /-- a comma or the closing bracket, after an element or member -/
  | next
  deriving DecidableEq, Repr, Inhabited

/-- A scalar, or the opening of a bracket. -/
def skipHead (bytes : Bytes) : Except Fault (Option Bracket × Bytes) :=
  match bytes with
  | [] => .error .endInValue
  | b :: rest =>
    if b = 0x6E then withRestOf (expectWord nullTail rest)
    else if b = 0x74 then withRestOf (expectWord trueTail rest)
    else if b = 0x66 then withRestOf (expectWord falseTail rest)
    else if b = 0x2D then withRestOf (skipNumber rest)
    else if isDigit b then withRestOf (skipNumber bytes)
    else if b = 0x22 then withRestOf (skipText .plain rest)
    else if b = 0x5B then .ok (some .list, rest)
    else if b = 0x7B then .ok (some .object, rest)
    else .error .expectedValue
where
  /-- A scalar ends the head. -/
  withRestOf (result : Except Fault Bytes) : Except Fault (Option Bracket × Bytes) :=
    match result with
    | .error e => .error e
    | .ok rest => .ok (none, rest)

/-- A member name and its colon. -/
def skipKey (bytes : Bytes) : Except Fault Bytes :=
  match skipSpace bytes with
  | [] => .error .endInObject
  | b :: rest =>
    if b = 0x22 then
      match skipText .plain rest with
      | .error e => .error e
      | .ok after =>
        match skipSpace after with
        | [] => .error .endInObject
        | c :: more => if c = 0x3A then .ok more else .error .expectedColon
    else .error .keyNotText

/-- What is due after an opening bracket or a comma. -/
def Bracket.item : Bracket → Due
  | .list => .value
  | .object => .key

/-- Pass over what is due and everything after it up to the end of the outermost bracket. -/
def skipDue : Nat → Due → List Bracket → Bytes → Except Fault Bytes
  | 0, _, _, _ => .error .endInValue
  | fuel + 1, .value, stack, bytes =>
    match skipHead (skipSpace bytes) with
    | .error e => .error e
    | .ok (none, rest) => skipDue fuel .next stack rest
    | .ok (some bracket, rest) => skipDue fuel .first (bracket :: stack) rest
  | fuel + 1, .key, stack, bytes =>
    match skipKey bytes with
    | .error e => .error e
    | .ok rest => skipDue fuel .value stack rest
  | fuel + 1, .first, stack, bytes =>
    match stack with
    | [] => .ok bytes
    | bracket :: outer =>
      match skipSpace bytes with
      | [] => .error bracket.ended
      | b :: rest =>
        if b = bracket.close then skipDue fuel .next outer rest
        else skipDue fuel bracket.item stack (b :: rest)
  | fuel + 1, .next, stack, bytes =>
    match stack with
    | [] => .ok bytes
    | bracket :: outer =>
      match skipSpace bytes with
      | [] => .error bracket.ended
      | b :: rest =>
        if b = 0x2C then skipDue fuel bracket.item stack rest
        else if b = bracket.close then skipDue fuel .next outer rest
        else .error bracket.unfinished

/-- What follows a value.  Every two steps read at least one octet, which bounds the steps. -/
def skipValue (bytes : Bytes) : Except Fault Bytes :=
  skipDue (2 * bytes.length + 2) .value [] bytes

end ApiStubs.Json
