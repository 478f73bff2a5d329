import ApiStubs.Json.Scan

/-!
# Numbers of JSON

A literal without fraction and exponent is an integer as long as it fits in 64 bits; every other
literal is a double.  The digits of a double are gathered into a 64-bit significand, digits that no
longer fit count as zeros, and the significand is scaled by one power of ten at a time, each step
rounded.
-/

namespace ApiStubs.Json

/-- What a number literal stands for. -/
inductive Number where
  | integer (value : Int)
  | float (value : Binary64)
  deriving DecidableEq, Repr, Inhabited

namespace Number

/-- The number as a value found in the wrong place. -/
def found : Number → Found
  | .integer n => .integer n
  | .float x => .float x

end Number

/-- The largest significand. -/
def significandMax : Nat := Nat.pow 2 64 - 1

/-- The largest exponent that is told apart from larger ones. -/
def exponentMax : Nat := Nat.pow 2 31 - 1

/-- Append digits to a significand until one no longer fits; the digits left over come back too. -/
def gather (significand : Nat) : Bytes → Nat × Bytes
  | [] => (significand, [])
  | d :: rest =>
    let next := significand * 10 + digitValue d
    if significandMax < next then (significand, d :: rest) else gather next rest

/-- The double nearest to a power of ten. -/
def powerOfTen (n : Nat) : Option Binary64 := Binary64.ofNat? (Nat.pow 10 n)

/-- Divide by `10 ^ 308` while the exponent is out of reach, then once by what is left. -/
def scaleDown : Nat → Binary64 → Nat → Binary64
  | 0, _, _ => Binary64.zero false
  | fuel + 1, x, n =>
    if x.isZero then x
    else
      let step := min n 308
      match powerOfTen step with
      | none => x
      | some p =>
        match x.div? p with
        | none => x
        | some y => if n ≤ 308 then y else scaleDown fuel y (n - 308)

/-- The double `± significand * 10 ^ exponent`. -/
def floatOfParts (negative : Bool) (significand : Nat) (exponent : Int) : Except Fault Number :=
  match Binary64.ofNat? significand with
  | none => .error .outOfRange
  | some x =>
    if x.isZero then .ok (.float (x.withSign negative))
    else if exponent < 0 then
      .ok (.float ((scaleDown 8 x (-exponent).toNat).withSign negative))
    else if 308 < exponent then .error .outOfRange
    else
      match powerOfTen exponent.toNat with
      | none => .error .outOfRange
      | some p =>
        match x.mul? p with
        | none => .error .outOfRange
        | some y => .ok (.float (y.withSign negative))

/-- The integer `± significand`, as long as it fits in 64 bits and is not a negative zero. -/
def integerOfParts (negative : Bool) (significand : Nat) : Except Fault Number :=
  if negative then
    if significand = 0 ∨ Nat.pow 2 63 < significand then floatOfParts true significand 0
    else .ok (.integer (-(significand : Int)))
  else .ok (.integer significand)

/-- The number written by decimal digits. -/
def naturalOf (digits : Bytes) : Nat := digits.foldl (fun n d => n * 10 + digitValue d) 0

/-- Whether the octet opens an exponent. -/
def isExponentMark (b : UInt8) : Bool := b == 0x65 || b == 0x45

/-- The digits of an exponent, which counts downwards after a minus sign, with what was read before
it. -/
def scanExponentDigits (negative : Bool) (significand : Nat) (exponent : Int) (down : Bool)
    (bytes : Bytes) : Except Fault (Number × Bytes) :=
  match bytes with
  | [] => .error .endInValue
  | b :: _ =>
    if isDigit b then
      let size := naturalOf (bytes.takeWhile isDigit)
      let after := bytes.dropWhile isDigit
      if exponentMax < size then
        if significand ≠ 0 ∧ !down then .error .outOfRange
        else .ok (.float (Binary64.zero negative), after)
      else
        let scaled : Int := if down then exponent - size else exponent + size
        withRest (floatOfParts negative significand scaled) after
    else .error .invalidNumber

/-- The exponent part after its mark, with what was read before it. -/
def scanExponent (negative : Bool) (significand : Nat) (exponent : Int) (bytes : Bytes) :
    Except Fault (Number × Bytes) :=
  match bytes with
  | [] => .error .endInValue
  | b :: more =>
    if b = 0x2B then scanExponentDigits negative significand exponent false more
    else if b = 0x2D then scanExponentDigits negative significand exponent true more
    else scanExponentDigits negative significand exponent false bytes

/-- The fraction part after its point, with what was read before it. -/
def scanFraction (negative : Bool) (significand : Nat) (exponent : Int) (bytes : Bytes) :
    Except Fault (Number × Bytes) :=
  let digits := bytes.takeWhile isDigit
  let after := bytes.dropWhile isDigit
  match digits, after with
  | [], [] => .error .endInValue
  | [], _ :: _ => .error .invalidNumber
  | _ :: _, _ =>
    let (significand', left) := gather significand digits
    let exponent' : Int := exponent - ((digits.length : Int) - (left.length : Int))
    match after with
    | b :: rest =>
      if isExponentMark b then scanExponent negative significand' exponent' rest
      else withRest (floatOfParts negative significand' exponent') after
    | [] => withRest (floatOfParts negative significand' exponent') []

/-- A literal of integer digits only, of which `left` did not fit into the significand. -/
def plainNumber (negative : Bool) (significand : Nat) (left : Bytes) : Except Fault Number :=
  if left.isEmpty then integerOfParts negative significand
  else floatOfParts negative significand left.length

/-- What follows the integer digits of a number, of which `left` did not fit into the
significand. -/
def scanNumberTail (negative : Bool) (significand : Nat) (left bytes : Bytes) :
    Except Fault (Number × Bytes) :=
  match bytes with
  | [] => withRest (plainNumber negative significand left) []
  | c :: rest =>
    if c = 0x2E then scanFraction negative significand left.length rest
    else if isExponentMark c then scanExponent negative significand left.length rest
    else withRest (plainNumber negative significand left) bytes

/-- A number after its sign. -/
def scanNumber (negative : Bool) (bytes : Bytes) : Except Fault (Number × Bytes) :=
  match bytes with
  | [] => .error .endInValue
  | b :: more =>
    if b = 0x30 then
      if (more.takeWhile isDigit).isEmpty then scanNumberTail negative 0 [] more
      else .error .invalidNumber
    else if isDigit b then
      let (significand, left) := gather 0 (bytes.takeWhile isDigit)
      scanNumberTail negative significand left (bytes.dropWhile isDigit)
    else .error .invalidNumber

end ApiStubs.Json
