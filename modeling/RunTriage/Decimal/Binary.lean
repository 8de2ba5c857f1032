/-!
Contract: binary floating-point numbers as exact fractions.

Owns:
- `Binary.decode`, which splits a double into sign, significand and exponent;
- the interval of reals that round to a finite double.

Does not own: any decimal notation.
-/

namespace RunTriage.Decimal

/-- A double taken apart. A finite one has the magnitude
`significand * 2 ^ exponent`. -/
inductive Binary where
  | notANumber
  | infinite (negative : Bool)
  | finite (negative : Bool) (significand : Nat) (exponent : Int)
deriving DecidableEq, Repr

namespace Binary

/-- Width of the stored fraction. -/
def fractionBits : Nat := 52

/-- The fields of a bit pattern of 64 bits. -/
def ofBits (bits : Nat) : Binary :=
  let negative := bits / Nat.pow 2 63 % 2 = 1
  let stored := bits / Nat.pow 2 fractionBits % 2048
  let fraction := bits % Nat.pow 2 fractionBits
  if stored = 2047 then
    if fraction = 0 then .infinite negative else .notANumber
  else if stored = 0 then
    .finite negative fraction (-1074)
  else
    .finite negative (fraction + Nat.pow 2 fractionBits) ((stored : Int) - 1075)

def decode (value : Float) : Binary :=
  ofBits value.toBits.toNat

/-- A magnitude as a quotient of natural numbers. -/
def fraction (significand : Nat) (exponent : Int) : Nat × Nat :=
  if 0 ≤ exponent then (significand * Nat.pow 2 exponent.toNat, 1)
  else (significand, Nat.pow 2 (-exponent).toNat)

end Binary

end RunTriage.Decimal
