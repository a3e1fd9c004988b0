import CallHandle.Double

/-!
Doubles from ratios and from decimals. A ratio rounds to the nearest double. A decimal is its digits
as a double, multiplied or divided by a power of ten as a double, and each of these steps rounds.
-/

namespace CallHandle.Double

/-- The integer nearest to a quotient, and of two the even one. -/
def divideToEven (numerator denominator : Nat) : Nat :=
  let quotient := numerator / denominator
  let doubled := 2 * (numerator % denominator)
  if doubled < denominator ∨ doubled = denominator ∧ quotient % 2 = 0 then
    quotient
  else
    quotient + 1

/-- The double nearest to a ratio, unless that is infinite. The significand has 53 bits, or fewer at
the least scale. One that rounds up to the next power of two carries into the exponent. -/
def ofRatio? (numerator denominator : Nat) : Option UInt64 :=
  let numerator := numerator * unitsOfOne
  let scale := (numerator / denominator).log2 - 52
  let bits := (scale <<< 52) + divideToEven numerator (denominator <<< scale)
  if bits < 2047 <<< 52 then some (UInt64.ofNat bits) else none

/-- The product of two doubles without their signs. -/
def product? (a b : UInt64) : Option UInt64 :=
  ofRatio? (units a * units b) (unitsOfOne * unitsOfOne)

/-- The quotient of two doubles without their signs. -/
def quotient? (a b : UInt64) : Option UInt64 :=
  ofRatio? (units a) (units b)

/-- The greatest power of ten that is a finite double. -/
def maxPower : Nat :=
  308

/-- The double nearest to a power of ten. -/
def power? (exponent : Nat) : Option UInt64 :=
  ofRatio? (tenTo exponent) 1

/-- Divides by a power of ten, and by the greatest one again and again if it is beyond that. -/
def shiftDown? (bits : UInt64) (exponent : Nat) : Option UInt64 :=
  if exponent ≤ maxPower then do
    quotient? bits (← power? exponent)
  else if bits = 0 then
    some 0
  else do
    shiftDown? (← quotient? bits (← power? maxPower)) (exponent - maxPower)
termination_by exponent
decreasing_by
  unfold maxPower at *
  omega

/-- The double of a decimal, unless it is infinite. -/
def ofDecimal? (d : Decimal) : Option UInt64 := do
  let whole ← ofRatio? d.digits 1
  if d.exponent < 0 then
    shiftDown? whole d.exponent.natAbs
  else if d.exponent ≤ maxPower then
    product? whole (← power? d.exponent.natAbs)
  else if whole = 0 then
    some 0
  else
    none

/-- The double with the other sign. -/
def negate (bits : UInt64) : UInt64 :=
  bits + (1 : UInt64) <<< 63

end CallHandle.Double
