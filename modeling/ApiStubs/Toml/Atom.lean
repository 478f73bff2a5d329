import ApiStubs.Number.Binary64

/-!
# Numbers, dates and words of a settings document

A value that is neither a string nor bracketed is a run of letters, digits and a few marks, and
stands for an integer, a float, a truth value or a date.
-/

namespace ApiStubs.Toml

/-- A value without parts that is not a string. -/
inductive Atom where
  | integer (value : Int)
  | float
  | boolean (value : Bool)
  /-- a date, a time, or both -/
  | moment
  /-- a number out of range -/
  | beyond
  deriving DecidableEq, Repr, Inhabited

/-! ## Integers -/

/-- Whether characters are digits with single underscores between them; the flag says whether a
digit stands just before. -/
def grouped (digit : Char → Bool) : Bool → List Char → Bool
  | after, [] => after
  | after, c :: rest =>
    if c = '_' then after && grouped digit false rest else digit c && grouped digit true rest

/-- The value of a digit of any base up to sixteen. -/
def digitValue (c : Char) : Nat :=
  if c.isDigit then c.toNat - 0x30 else if c.isUpper then c.toNat - 0x37 else c.toNat - 0x57

/-- The number that digits spell in a base, underscores left out. -/
def digitsValue (base : Nat) (cs : List Char) : Nat :=
  (cs.filter (· ≠ '_')).foldl (fun n c => n * base + digitValue c) 0

/-- Whether a digit belongs to a base of two, eight or sixteen. -/
def isDigitOf (base : Nat) (c : Char) : Bool :=
  (c.isDigit || ('a' ≤ c && c ≤ 'f') || ('A' ≤ c && c ≤ 'F')) && digitValue c < base

/-- A sign, true for minus, and the characters after it. -/
def takeSign : List Char → Bool × List Char
  | '+' :: rest => (false, rest)
  | '-' :: rest => (true, rest)
  | cs => (false, cs)

/-- Whether characters are a decimal number without a superfluous zero. -/
def isWhole (cs : List Char) : Bool :=
  grouped Char.isDigit false cs && (cs.length == 1 || cs.head? != some '0')

/-- An integer, which is kept in 128 bits, with or without a sign. -/
def Atom.ofInt (n : Int) :
    Atom := if -Int.pow 2 127 ≤ n && n < Int.pow 2 128 then .integer n else .beyond

/-- Digits of a base that is not ten. -/
def based? (base : Nat) (cs : List Char) : Option Atom :=
  if grouped (isDigitOf base) false cs then some (.ofInt (digitsValue base cs)) else none

/-- An integer. -/
def integer? (cs : List Char) : Option Atom :=
  match cs with
  | '0' :: 'x' :: rest => based? 16 rest
  | '0' :: 'o' :: rest => based? 8 rest
  | '0' :: 'b' :: rest => based? 2 rest
  | _ =>
    let (negative, digits) := takeSign cs
    if isWhole digits then
      some (.ofInt (if negative then -(digitsValue 10 digits : Int) else
        (digitsValue 10 digits : Int)))
    else none

/-! ## Floats -/

/-- Whether `coefficient * 10 ^ exponent` rounds to a finite number. -/
def isFinite (coefficient : Nat) (exponent : Int) : Bool :=
  if coefficient = 0 then true
  else
    let magnitude := exponent + (Nat.toDigits 10 coefficient).length
    if 309 < magnitude then false
    else if magnitude < 309 then true
    else (Binary64.ofDecimal? coefficient exponent).isSome

/-- The exponent of a float, or none if it is malformed; nothing stands for zero. -/
def exponent? : List Char → Option Int
  | [] => some 0
  | mark :: rest =>
    if mark = 'e' || mark = 'E' then
      let (negative, digits) := takeSign rest
      if grouped Char.isDigit false digits then
        let n : Int := digitsValue 10 digits
        some (if negative then -n else n)
      else none
    else none

/-- A float. -/
def float? (cs : List Char) : Option Atom :=
  let body := (takeSign cs).2
  if body = ['i', 'n', 'f'] || body = ['n', 'a', 'n'] then some .float
  else
    let inNumber := fun c : Char => c.isDigit || c = '_'
    let whole := body.takeWhile inNumber
    let rest := body.dropWhile inNumber
    let (fraction, tail, pointed) := match rest with
      | '.' :: more => (more.takeWhile inNumber, more.dropWhile inNumber, true)
      | _ => ([], rest, false)
    if isWhole whole && (!pointed || grouped Char.isDigit false fraction) &&
        (pointed || !tail.isEmpty) then
      (exponent? tail).map fun e =>
        if isFinite (digitsValue 10 (whole ++ fraction))
            (e - ((fraction.filter (· ≠ '_')).length : Int)) then .float
        else .beyond
    else none

/-! ## Dates -/

/-- The number that two digits spell, within bounds, and what follows. -/
def twoDigits? (low high : Nat) : List Char → Option (Nat × List Char)
  | a :: b :: rest =>
    if a.isDigit && b.isDigit then
      let n := digitsValue 10 [a, b]
      if low ≤ n && n ≤ high then some (n, rest) else none
    else none
  | _ => none

/-- The number of days of a month. -/
def monthDays (year month : Nat) : Nat :=
  if month = 2 then
    if year % 4 == 0 && (year % 100 != 0 || year % 400 == 0) then 29 else 28
  else if month = 4 || month = 6 || month = 9 || month = 11 then 30
  else 31

/-- What follows a date. -/
def afterDate? : List Char → Option (List Char)
  | a :: b :: c :: d :: '-' :: rest =>
    if a.isDigit && b.isDigit && c.isDigit && d.isDigit then
      match twoDigits? 1 12 rest with
      | some (month, '-' :: more) =>
        (twoDigits? 1 (monthDays (digitsValue 10 [a, b, c, d]) month) more).map (·.2)
      | _ => none
    else none
  | _ => none

/-- What follows a time; seconds and their fraction may be left out. -/
def afterTime? (cs : List Char) : Option (List Char) :=
  match twoDigits? 0 23 cs with
  | some (_, ':' :: rest) =>
    match twoDigits? 0 59 rest with
    | some (_, ':' :: more) =>
      match twoDigits? 0 60 more with
      | some (_, '.' :: fraction) =>
        if (fraction.takeWhile Char.isDigit).isEmpty then none
        else some (fraction.dropWhile Char.isDigit)
      | some (_, tail) => some tail
      | none => none
    | some (_, tail) => some tail
    | none => none
  | _ => none

/-- Whether characters are nothing, or an offset from universal time. -/
def isOffset : List Char → Bool
  | [] => true
  | ['Z'] => true
  | ['z'] => true
  | sign :: rest =>
    (sign = '+' || sign = '-') &&
      match twoDigits? 0 23 rest with
      | some (_, ':' :: more) =>
        match twoDigits? 0 59 more with
        | some (_, []) => true
        | _ => false
      | _ => false

/-- Whether characters are a date, a time, or a date with a time. -/
def isMoment (cs : List Char) : Bool :=
  match afterDate? cs with
  | some [] => true
  | some (mark :: rest) =>
    (mark = 'T' || mark = 't' || mark = ' ') &&
      match afterTime? rest with
      | some tail => isOffset tail
      | none => false
  | none =>
    match afterTime? cs with
    | some [] => true
    | _ => false

/-! ## Atoms -/

/-- What an atom stands for. -/
def atom? (cs : List Char) : Option Atom :=
  if cs = ['t', 'r', 'u', 'e'] then some (.boolean true)
  else if cs = ['f', 'a', 'l', 's', 'e'] then some (.boolean false)
  else
    match integer? cs with
    | some a => some a
    | none =>
      match float? cs with
      | some a => some a
      | none => if isMoment cs then some .moment else none

end ApiStubs.Toml
