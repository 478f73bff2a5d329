/-!
# Integers as decimal text

No leading zeros, a minus sign for negative numbers, `0` for zero.
-/

namespace ApiStubs.Text

/-- The decimal text of a natural number. -/
def decimalNat (n : Nat) : String := String.ofList (Nat.toDigits 10 n)

/-- The decimal text of an integer. -/
def decimal : Int → String
  | .ofNat n => decimalNat n
  | .negSucc n => "-" ++ decimalNat (n + 1)

end ApiStubs.Text
