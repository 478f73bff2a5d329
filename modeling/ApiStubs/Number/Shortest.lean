import ApiStubs.Number.Binary64
import ApiStubs.Text.Decimal

/-!
# The shortest decimal text of a double

Of all decimals that round to a number, the ones with the fewest digits are taken, and of these the
nearest.  A grid of `k`-digit decimals has a point in the rounding interval if and only if one of
the number's two neighbours on that grid lies in it, so the two neighbours are all that is tried;
seventeen digits always suffice.
-/

namespace ApiStubs.Binary64

/-- The decimal `coefficient * 10 ^ exponent`. -/
structure Decimal where
  coefficient : Nat
  exponent : Int
  deriving DecidableEq, Repr, Inhabited

/-- The rounding interval of a nonzero number, in units of a quarter of its last place: the number
itself, and how far it reaches down and up. -/
def reach (x : Binary64) : Nat × Nat :=
  if x.mantissa = Nat.pow 2 52 ∧ -1074 < x.exponent then (1, 2) else (2, 2)

/-- Whether a ratio lies in the interval of ratios that round to the number.  The ends belong to it
exactly when the mantissa is even. -/
def rounds (x : Binary64) (num den : Nat) : Bool :=
  let scaleNum := Nat.pow 2 x.exponent.toNat
  let scaleDen := 4 * Nat.pow 2 (-x.exponent).toNat
  let low := (4 * x.mantissa - (reach x).1) * scaleNum * den
  let high := (4 * x.mantissa + (reach x).2) * scaleNum * den
  let here := num * scaleDen
  if x.mantissa % 2 = 0 then low ≤ here && here ≤ high else low < here && here < high

/-- The largest `p` with `10 ^ p ≤ num / den`. -/
def floorLog10 (num den : Nat) : Int :=
  let guess : Int := floorLog2 num den * 30103 / 100000
  let atLeast (p : Int) : Bool := den * Nat.pow 10 p.toNat ≤ num * Nat.pow 10 (-p).toNat
  if atLeast (guess + 1) then guess + 1 else if atLeast guess then guess else guess - 1

/-- The point of the grid with `10 ^ unit` spacing that stands for the number, if one does. -/
def onGrid (x : Binary64) (unit : Int) : Option Nat :=
  let up := Nat.pow 10 unit.toNat
  let down := Nat.pow 10 (-unit).toNat
  let num := x.numerator * down
  let den := x.denominator * up
  let floor := num / den
  let rest := num % den
  let below := rounds x (floor * up) down
  let above := rounds x ((floor + 1) * up) down
  if below && above then
    some (if 2 * rest < den || (2 * rest == den && floor % 2 == 0) then floor else floor + 1)
  else if below then some floor
  else if above then some (floor + 1)
  else none

/-- The first grid, from `k` digits on, with a point for the number. -/
def searchGrid (x : Binary64) (top : Int) : Nat → Nat → Decimal
  | 0, _ => ⟨0, 0⟩
  | tries + 1, digits =>
    let unit := top + 1 - (digits : Int)
    match onGrid x unit with
    | some n => ⟨n, unit⟩
    | none => searchGrid x top tries (digits + 1)

/-- Divide trailing zeros out of the coefficient. -/
def dropZeros : Nat → Decimal → Decimal
  | 0, d => d
  | fuel + 1, d =>
    if d.coefficient ≠ 0 ∧ d.coefficient % 10 = 0 then
      dropZeros fuel ⟨d.coefficient / 10, d.exponent + 1⟩
    else d

/-- The shortest decimal that rounds to the number, without trailing zeros. -/
def shortest (x : Binary64) : Decimal :=
  if x.isZero then ⟨0, 0⟩
  else dropZeros 20 (searchGrid x (floorLog10 x.numerator x.denominator) 17 1)

/-- Digits with a point after the first `point` of them, filled up with zeros on either side. -/
def positionalDigits (digits : List Char) (point : Int) : List Char :=
  if point ≤ 0 then '0' :: '.' :: (List.replicate (-point).toNat '0' ++ digits)
  else if digits.length ≤ point.toNat then
    digits ++ List.replicate (point.toNat - digits.length) '0' ++ ['.', '0']
  else digits.take point.toNat ++ '.' :: digits.drop point.toNat

/-- The digits of the shortest decimal and the place of its point. -/
def digitsAndPoint (x : Binary64) : List Char × Int :=
  let d := shortest x
  let digits := Nat.toDigits 10 d.coefficient
  if x.isZero then (['0'], 1) else (digits, (digits.length : Int) + d.exponent)

/-- The sign in front of a text. -/
def signed (x : Binary64) (digits : List Char) : String :=
  String.ofList (if x.negative then '-' :: digits else digits)

/-- Positional notation with at least one digit after the point. -/
def positional (x : Binary64) : String :=
  let (digits, point) := digitsAndPoint x
  signed x (positionalDigits digits point)

/-- How a number is laid out when very large and very small ones take a power of ten. -/
structure Layout where
  /-- the leftmost place of the point that is still written out: `0` for `0.1`, `-1` for `0.01` -/
  leftmost : Int
  /-- whether a positive power is written with a plus sign -/
  plus : Bool
  deriving DecidableEq, Repr, Inhabited

/-- A power of ten. -/
def powerText (plus : Bool) (power : Int) : List Char :=
  'e' :: (if plus && !(power < 0) then ['+'] else []) ++ (Text.decimal power).toList

/-- Positional notation for moderate numbers below `1e16`, and a power of ten outside. -/
def written (layout : Layout) (x : Binary64) : String :=
  let (digits, point) := digitsAndPoint x
  if layout.leftmost ≤ point ∧ point ≤ 16 then signed x (positionalDigits digits point)
  else
    let power := powerText layout.plus (point - 1)
    match digits with
    | [] => signed x power
    | [d] => signed x (d :: power)
    | d :: more => signed x (d :: '.' :: (more ++ power))

/-- Positional notation from `1e-5` up to `1e16`, and a signed power of ten outside. -/
def compact (x : Binary64) : String := written ⟨-4, true⟩ x

/-- Positional notation from `1e-4` up to `1e16`, and a power of ten without a plus sign outside. -/
def inner (x : Binary64) : String := written ⟨-3, false⟩ x

end ApiStubs.Binary64
