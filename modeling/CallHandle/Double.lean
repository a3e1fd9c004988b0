/-!
Finite doubles as bits, and decimals. The magnitude of a double is its significand shifted left by
its scale, counted in units of the least double `2 ^ -1074`.
-/

namespace CallHandle.Double

/-- A decimal: an integer times a power of ten. -/
structure Decimal where
  digits : Nat
  exponent : Int
  deriving DecidableEq

/-- A power of ten. -/
def tenTo (exponent : Nat) : Nat :=
  Nat.pow 10 exponent

/-- The field of the exponent, without the sign before it. -/
def exponentField (bits : UInt64) : Nat :=
  (bits.toNat >>> 52) % (1 <<< 11)

/-- The field of the fraction. -/
def fractionField (bits : UInt64) : Nat :=
  bits.toNat % (1 <<< 52)

/-- The fraction with its leading one, which the doubles of the least scale may lack. -/
def significand (bits : UInt64) : Nat :=
  if exponentField bits = 0 then fractionField bits else (1 <<< 52) + fractionField bits

/-- The scale of the significand. The first two exponents share the least one. -/
def scale (bits : UInt64) : Nat :=
  exponentField bits - 1

/-- How many units the magnitude is. -/
def units (bits : UInt64) : Nat :=
  significand bits <<< scale bits

/-- How many units make one. -/
def unitsOfOne : Nat :=
  1 <<< 1074

end CallHandle.Double
