/-!
# Double-precision numbers, exactly

A finite binary64 number is a sign, a mantissa below `2 ^ 53` and a power of two.  Rounding,
products and quotients are computed on exact ratios of natural numbers and rounded once, to the
nearest number and to an even mantissa when two are equally near.  A result beyond the largest
finite number is no number.
-/

namespace ApiStubs

/-- The finite number `± mantissa * 2 ^ exponent`. -/
structure Binary64 where
  negative : Bool
  mantissa : Nat
  exponent : Int
  deriving DecidableEq, Repr, Inhabited

namespace Binary64

/-- Zero, with a sign. -/
def zero (negative : Bool) : Binary64 := ⟨negative, 0, 0⟩

/-- Whether the number is zero, of either sign. -/
def isZero (x : Binary64) : Bool := x.mantissa == 0

/-- The same magnitude with the given sign. -/
def withSign (negative : Bool) (x : Binary64) : Binary64 := { x with negative := negative }

/-- The numerator of the magnitude as a ratio. -/
def numerator (x : Binary64) : Nat := x.mantissa * Nat.pow 2 x.exponent.toNat

/-- The denominator of the magnitude as a ratio. -/
def denominator (x : Binary64) : Nat := Nat.pow 2 (-x.exponent).toNat

/-- The largest `l` with `2 ^ l ≤ num / den`, for positive `num` and `den`. -/
def floorLog2 (num den : Nat) : Int :=
  let guess : Int := (num.log2 : Int) - (den.log2 : Int)
  if num * Nat.pow 2 (-guess).toNat < den * Nat.pow 2 guess.toNat then guess - 1 else guess

/-- The quotient rounded to the nearest natural number, a tie going to the even one. -/
def roundHalfEven (num den : Nat) : Nat :=
  let floor := num / den
  let rest := num % den
  if den < 2 * rest || (2 * rest == den && floor % 2 == 1) then floor + 1 else floor

/-- The number nearest to a ratio of natural numbers; none if it is beyond the finite numbers. -/
def ofRatio? (num den : Nat) : Option Binary64 :=
  if num = 0 || den = 0 then some (zero false)
  else
    let unit : Int := max (floorLog2 num den - 52) (-1074)
    let mantissa := roundHalfEven (num * Nat.pow 2 (-unit).toNat) (den * Nat.pow 2 unit.toNat)
    let rounded : Binary64 :=
      if mantissa = Nat.pow 2 53 then ⟨false, Nat.pow 2 52, unit + 1⟩ else ⟨false, mantissa, unit⟩
    if 971 < rounded.exponent then none else some rounded

/-- The number nearest to a natural number. -/
def ofNat? (n : Nat) : Option Binary64 := ofRatio? n 1

/-- The number nearest to `coefficient * 10 ^ exponent`. -/
def ofDecimal? (coefficient : Nat) (exponent : Int) : Option Binary64 :=
  ofRatio? (coefficient * Nat.pow 10 exponent.toNat) (Nat.pow 10 (-exponent).toNat)

/-- The product of the magnitudes. -/
def mul? (x y : Binary64) : Option Binary64 :=
  ofRatio? (x.numerator * y.numerator) (x.denominator * y.denominator)

/-- The quotient of the magnitudes; zero when the divisor is zero. -/
def div? (x y : Binary64) : Option Binary64 :=
  ofRatio? (x.numerator * y.denominator) (x.denominator * y.numerator)

end Binary64

end ApiStubs
