import ApiStubs.Number.Shortest

/-!
# Double-precision numbers with infinities

Arithmetic that leaves the finite numbers goes on with an infinity, and with no number at all where
two infinities cancel.
-/

namespace ApiStubs

/-- A double-precision number. -/
inductive Double where
  | finite (value : Binary64)
  | infinite (negative : Bool)
  | notNumber
  deriving DecidableEq, Repr, Inhabited

namespace Double

/-- The number nearest to a signed ratio; beyond the finite numbers, an infinity. -/
def ofRatio (negative : Bool) (num den : Nat) : Double :=
  match Binary64.ofRatio? num den with
  | some x => .finite (x.withSign negative)
  | none => .infinite negative

/-- The number nearest to `coefficient * 10 ^ exponent`.  Far beyond the finite numbers, and far
below the smallest one, the size alone decides. -/
def ofDecimal (negative : Bool) (coefficient : Nat) (exponent : Int) : Double :=
  let size := exponent + ((Nat.toDigits 10 coefficient).length : Int)
  if coefficient = 0 || size < -330 then .finite (Binary64.zero negative)
  else if 310 < size then .infinite negative
  else ofRatio negative (coefficient * Nat.pow 10 exponent.toNat) (Nat.pow 10 (-exponent).toNat)

/-- The number nearest to an integer. -/
def ofInt (n : Int) : Double := ofRatio (n < 0) n.natAbs 1

/-- The number with the other sign. -/
def neg : Double → Double
  | .finite x => .finite (x.withSign (!x.negative))
  | .infinite negative => .infinite (!negative)
  | .notNumber => .notNumber

/-- The numerator of a finite number over its denominator. -/
def numerator (x : Binary64) : Int :=
  if x.negative then -(x.numerator : Int) else x.numerator

/-- The sum of finite numbers, rounded once.  A sum of zero is negative only if both parts are. -/
def addFinite (x y : Binary64) : Double :=
  let sum := numerator x * y.denominator + numerator y * x.denominator
  if sum = 0 then .finite (Binary64.zero (x.negative && y.negative))
  else ofRatio (sum < 0) sum.natAbs (x.denominator * y.denominator)

/-- The sum of two numbers. -/
def add : Double → Double → Double
  | .notNumber, _ => .notNumber
  | _, .notNumber => .notNumber
  | .infinite a, .infinite b => if a = b then .infinite a else .notNumber
  | .infinite a, .finite _ => .infinite a
  | .finite _, .infinite b => .infinite b
  | .finite x, .finite y => addFinite x y

/-- Whether the number is zero, of either sign. -/
def isZero : Double → Bool
  | .finite x => x.isZero
  | _ => false

/-- The integer that the number is, if it is one. -/
def toInt? : Double → Option Int
  | .finite x =>
    if x.numerator % x.denominator = 0 then some (numerator x / x.denominator) else none
  | _ => none

/-- Whether two numbers are equal.  What is no number equals nothing. -/
def equal : Double → Double → Bool
  | .finite x, .finite y => numerator x * y.denominator == numerator y * x.denominator
  | .infinite a, .infinite b => a == b
  | _, _ => false

/-- Positional notation with at least one digit after the point. -/
def positional : Double → String
  | .finite x => x.positional
  | .infinite negative => if negative then "-inf" else "inf"
  | .notNumber => "NaN"

/-- The form inside a list: a power of ten for very large and very small numbers. -/
def inner : Double → String
  | .finite x => x.inner
  | x => x.positional

end Double

end ApiStubs
