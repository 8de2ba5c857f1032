import RunTriage.Decimal.Binary

/-!
Contract: the shortest decimal that reads back as a given double.

Owns:
- `Shortest`, decimal digits with the position of the point;
- `Shortest.ofMagnitude`: on the coarsest decimal grid that has a point inside
  the interval of reals rounding to the double, the point nearest to it.

Does not own: where a notation puts the point or the exponent, which is
`RunTriage.Decimal.Layout`.
-/

namespace RunTriage.Decimal

/-- The positive decimal `0.d₁d₂d₃… * 10 ^ point`, where `digits` has no zero at
either end. Zero has no digits. -/
structure Shortest where
  digits : List Nat
  point : Int
deriving DecidableEq, Repr

namespace Shortest

/-- Decimal digits from the most significant one. -/
def digitsOf (value : Nat) : List Nat :=
  (toString value).toList.map fun digit => digit.toNat - 48

/-- The decimal `value * 10 ^ exponent`. -/
def ofScaled (value : Nat) (exponent : Int) : Shortest :=
  let digits := digitsOf value
  let trimmed := (digits.reverse.dropWhile (· = 0)).reverse
  if trimmed.isEmpty then ⟨[], 0⟩ else ⟨trimmed, exponent + digits.length⟩

/-- The reals that round to a double, all multiplied by one denominator. The
ends belong to it when the significand is even. -/
structure Interval where
  low : Nat
  value : Nat
  high : Nat
  denominator : Nat
  closed : Bool
deriving DecidableEq, Repr

/-- Half of the distance to either neighbour lies in the interval; below a
power of two the lower neighbour is only half as far away. -/
def Interval.ofMagnitude (significand : Nat) (exponent : Int) : Interval :=
  let (numerator, denominator) := Binary.fraction significand exponent
  let unit := (Binary.fraction 1 exponent).1
  let atPower := significand = Nat.pow 2 Binary.fractionBits && -1074 < exponent
  { low := 4 * numerator - (if atPower then unit else 2 * unit)
    value := 4 * numerator
    high := 4 * numerator + 2 * unit
    denominator := 4 * denominator
    closed := significand % 2 = 0 }

/-- The quotient `point / scale` lies in the interval. -/
def Interval.contains (interval : Interval) (point scale : Nat) : Bool :=
  let left := point * interval.denominator
  if interval.closed then
    interval.low * scale ≤ left && left ≤ interval.high * scale
  else
    interval.low * scale < left && left < interval.high * scale

/-- The nearer of two grid neighbours that lie in the interval; of equally near
ones the even one. -/
def pick (interval : Interval) (scaledValue below scale : Nat) : Option Nat :=
  let above := below + 1
  let lower := interval.contains below scale
  let upper := interval.contains above scale
  if lower && upper then
    let twice := 2 * scaledValue
    let middle := (2 * below + 1) * interval.denominator
    if twice < middle then some below
    else if middle < twice then some above
    else if below % 2 = 0 then some below
    else some above
  else if lower then some below
  else if upper then some above
  else none

/-- Search grids of spacing `10 ^ exponent` from coarse to fine. -/
def search (interval : Interval) : Nat → Int → Option Shortest
  | 0, _ => none
  | steps + 1, exponent =>
    let gridUp := Nat.pow 10 exponent.toNat
    let gridDown := Nat.pow 10 (-exponent).toNat
    let scaled : Interval :=
      { interval with
        low := interval.low * gridDown
        value := interval.value * gridDown
        high := interval.high * gridDown
        denominator := interval.denominator * gridUp }
    let below := scaled.value / scaled.denominator
    match pick scaled scaled.value below 1 with
    | some point =>
      if point = 0 then search interval steps (exponent - 1)
      else some (ofScaled point exponent)
    | none => search interval steps (exponent - 1)

/-- The number of decimal digits before the point of a quotient, or one more,
or minus the number of zeros after it. -/
def coarsestExponent (numerator denominator : Nat) : Int :=
  ((toString numerator).length : Int) - (toString denominator).length + 1

/-- Digits of `significand * 2 ^ exponent`. Seventeen digits always tell two
doubles apart, so the search ends. -/
def ofMagnitude (significand : Nat) (exponent : Int) : Shortest :=
  if significand = 0 then ⟨[], 0⟩
  else
    let interval := Interval.ofMagnitude significand exponent
    match search interval 40 (coarsestExponent interval.value interval.denominator) with
    | some shortest => shortest
    | none => ⟨[], 0⟩

end Shortest

end RunTriage.Decimal
