/-!
Contract: floating-point values of decimal texts.

Owns:
- `scaled?`, the quick reading used for JSON: a significand of at most 64 bits,
  rounded once, times or over a power of ten, rounded again;
- `nearest`, the correctly rounded value, used for rule files.

Does not own: the grammar of numbers, which belongs to each data format.
-/

namespace RunTriage.Decimal

/-- A power of ten, correctly rounded. -/
def powerOfTen (exponent : Nat) : Float :=
  Float.ofScientific 1 false exponent

/-- The largest power of ten below the greatest double. -/
def greatestPower : Nat := 308

/-- The greatest significand that is still accumulated digit by digit. -/
def greatestSignificand : Nat := Nat.pow 2 64 - 1

/-- Scale a value by a power of ten. A value beyond the greatest double has no
reading; one below the least double is zero. Every round but the last divides
by the greatest power, after three of which any value is zero. -/
def scale (value : Float) (exponent : Int) : Nat → Option Float
  | 0 => some value
  | rounds + 1 =>
    if exponent.natAbs ≤ greatestPower then
      if 0 ≤ exponent then
        let product := value * powerOfTen exponent.toNat
        if product.isInf then none else some product
      else
        some (value / powerOfTen exponent.natAbs)
    else if value == 0.0 then some value
    else if 0 ≤ exponent then none
    else scale (value / powerOfTen greatestPower) (exponent + greatestPower) rounds

/-- The value of `significand * 10 ^ exponent`, with a sign. -/
def scaled? (negative : Bool) (significand : Nat) (exponent : Int) : Option Float :=
  (scale (UInt64.ofNat significand).toFloat exponent 8).map fun magnitude =>
    if negative then -magnitude else magnitude

/-- Digits of a whole part: the significand, and how many digits no longer fit
into it. -/
def takeWhole : List Nat → Nat → Nat × Nat
  | [], significand => (significand, 0)
  | digit :: rest, significand =>
    if significand * 10 + digit ≤ greatestSignificand then
      takeWhole rest (significand * 10 + digit)
    else
      (significand, rest.length + 1)

/-- Digits of a fraction, up to the first that no longer fits: the significand,
and how many were taken. -/
def takeFraction : List Nat → Nat → Nat → Nat × Nat
  | [], significand, taken => (significand, taken)
  | digit :: rest, significand, taken =>
    if significand * 10 + digit ≤ greatestSignificand then
      takeFraction rest (significand * 10 + digit) (taken + 1)
    else
      (significand, taken)

/-- The double nearest to `significand * 10 ^ exponent`, ties to even. Exponents
that can only give zero or infinity are cut short. -/
def nearest (negative : Bool) (significand : Nat) (exponent : Int) : Float :=
  let length : Int := (toString significand).length
  let magnitude :=
    if significand = 0 then 0.0
    else if exponent + length < -400 then 0.0
    else if 400 < exponent + length then Float.ofScientific 1 false 400
    else if 0 ≤ exponent then Float.ofScientific significand false exponent.toNat
    else Float.ofScientific significand true exponent.natAbs
  if negative then -magnitude else magnitude

end RunTriage.Decimal
