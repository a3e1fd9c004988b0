import CallHandle.Double

/-!
The text of a double in the fewest digits that round to the same double. A double stands for every
real that rounds to it, an interval around its own value. On grids of ten, from coarse to fine, the
first grid with a point in the interval gives the digits.
-/

namespace CallHandle.Double

/-- The reals that round to one double, as numerators over one denominator. -/
structure Interval where
  low : Nat
  value : Nat
  high : Nat
  denominator : Nat
  /-- Whether the ends round to the double too. -/
  closed : Bool
  deriving DecidableEq

/-- The interval of a finite double without its sign, in quarters of units. The gap below a power of
two is half the gap above it. -/
def interval (bits : UInt64) : Interval :=
  let below := if fractionField bits = 0 ∧ 1 < exponentField bits then 1 else 2
  { low := (4 * significand bits - below) <<< scale bits
    value := (4 * significand bits) <<< scale bits
    high := (4 * significand bits + 2) <<< scale bits
    denominator := 4 * unitsOfOne
    closed := significand bits % 2 == 0 }

namespace Interval

/-- Whether a point of the grid `10 ^ exponent` rounds to the double. -/
def contains (i : Interval) (point : Decimal) : Bool :=
  let scaled := point.digits * i.denominator * tenTo point.exponent.toNat
  let unit := tenTo (-point.exponent).toNat
  if i.closed then
    i.low * unit ≤ scaled && scaled ≤ i.high * unit
  else
    i.low * unit < scaled && scaled < i.high * unit

/-- The grid points on both sides of the value, with the nearer one first and the even one first
when both are as near. -/
def neighbours (i : Interval) (exponent : Int) : List Decimal :=
  let numerator := i.value * tenTo (-exponent).toNat
  let unit := i.denominator * tenTo exponent.toNat
  let digits := numerator / unit
  let doubled := 2 * (numerator % unit)
  let lower : Decimal := ⟨digits, exponent⟩
  let upper : Decimal := ⟨digits + 1, exponent⟩
  if doubled < unit ∨ doubled = unit ∧ digits % 2 = 0 then [lower, upper] else [upper, lower]

/-- The first grid point that rounds to the double, on grids from `10 ^ exponent` down. -/
def search (i : Interval) : Nat → Int → Decimal
  | 0, exponent =>
    ⟨i.value * tenTo (-exponent).toNat / (i.denominator * tenTo exponent.toNat), exponent⟩
  | steps + 1, exponent =>
    match (i.neighbours exponent).find? i.contains with
    | some point => point
    | none => i.search steps (exponent - 1)

/-- The shortest decimal that rounds to the double. Seventeen digits always do. -/
def shortest (i : Interval) : Decimal :=
  let length (n : Nat) : Int := (Nat.toDigits 10 n).length
  i.search 20 (length i.value - length i.denominator + 1)

end Interval

/-- A decimal without zeros at the end of its digits. -/
def Decimal.trim (d : Decimal) : Nat → Decimal
  | 0 => d
  | steps + 1 =>
    if d.digits % 10 = 0 then Decimal.trim ⟨d.digits / 10, d.exponent + 1⟩ steps else d

/-- An exponent with its sign. -/
def exponentText (exponent : Int) : String :=
  if exponent < 0 then exponent.repr else "+" ++ exponent.repr

/-- Positional text with a point for magnitudes from `10 ^ -5` up to `10 ^ 16`, and scientific text
beyond. -/
def Decimal.text (d : Decimal) : String :=
  let digits := Nat.toDigits 10 d.digits
  let point := digits.length + d.exponent
  let chars :=
    if 0 ≤ d.exponent ∧ point ≤ 16 then
      digits ++ List.replicate d.exponent.toNat '0' ++ ['.', '0']
    else if 0 < point ∧ point ≤ 16 then
      digits.take point.toNat ++ '.' :: digits.drop point.toNat
    else if -5 < point ∧ point ≤ 0 then
      ['0', '.'] ++ List.replicate (-point).toNat '0' ++ digits
    else
      digits.take 1 ++ (if digits.length = 1 then [] else '.' :: digits.drop 1) ++
        'e' :: (exponentText (point - 1)).toList
  String.ofList chars

/-- The text of a finite double. -/
def text (bits : UInt64) : String :=
  let sign := if bits.toNat >>> 63 = 1 then "-" else ""
  if bits.toNat % (1 <<< 63) = 0 then
    sign ++ "0.0"
  else
    sign ++ ((interval bits).shortest.trim 20).text

end CallHandle.Double
