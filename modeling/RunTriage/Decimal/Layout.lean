import RunTriage.Decimal.Shortest

/-!
Contract: the notations in which this library writes floating-point numbers.

Owns:
- `stored`, the notation of records: shortest digits, a point in every fixed
  number, an exponent beyond the fixed range;
- `spelled`, the notation of messages: shortest digits, never an exponent;
- `fixed`, a given number of places, ties to even.

Does not own: the digits, which are `RunTriage.Decimal.Shortest`.
-/

namespace RunTriage.Decimal

def digitChars (digits : List Nat) : List Char :=
  digits.map fun digit => Char.ofNat (digit + 48)

def zeros (count : Nat) : List Char :=
  List.replicate count '0'

/-- Where the notation of records changes from fixed to scientific. -/
structure StoredFormat where
  leastFixed : Int
  greatestFixed : Int
  positiveMark : String
deriving Repr

/-- Exponents from -5 to 15 are written fixed, and a positive exponent carries
its sign. -/
def storedFormat : StoredFormat :=
  { leastFixed := -5, greatestFixed := 15, positiveMark := "+" }

/-- Digits with the point in its place; `bare` is what a whole number ends in. -/
def placePoint (shortest : Shortest) (bare : List Char) : List Char :=
  let chars := digitChars shortest.digits
  if shortest.point ≤ 0 then
    '0' :: '.' :: (zeros (-shortest.point).toNat ++ chars)
  else
    let whole := shortest.point.toNat
    if chars.length ≤ whole then
      chars ++ zeros (whole - chars.length) ++ bare
    else
      chars.take whole ++ '.' :: chars.drop whole

/-- One digit, the point if more digits follow, and the exponent. -/
def placeExponent (format : StoredFormat) (shortest : Shortest) : List Char :=
  let exponent := shortest.point - 1
  let head := (digitChars shortest.digits).take 1
  let tail := (digitChars shortest.digits).drop 1
  let mark := if 0 ≤ exponent then format.positiveMark else "-"
  head ++ (if tail.isEmpty then [] else '.' :: tail) ++
    'e' :: mark.toList ++ (toString exponent.natAbs).toList

def storedMagnitude (shortest : Shortest) : List Char :=
  if shortest.digits.isEmpty then ['0', '.', '0']
  else
    let exponent := shortest.point - 1
    if storedFormat.leastFixed ≤ exponent && exponent ≤ storedFormat.greatestFixed then
      placePoint shortest ['.', '0']
    else
      placeExponent storedFormat shortest

def signChars (negative : Bool) : List Char :=
  if negative then ['-'] else []

/-- The notation of records, which has no text for values that are not finite. -/
def stored? (value : Float) : Option String :=
  match Binary.decode value with
  | .finite negative significand exponent =>
    some (String.ofList
      (signChars negative ++ storedMagnitude (Shortest.ofMagnitude significand exponent)))
  | _ => none

/-- The notation of messages. -/
def spelled (value : Float) : String :=
  match Binary.decode value with
  | .notANumber => "NaN"
  | .infinite negative => String.ofList (signChars negative ++ "inf".toList)
  | .finite negative significand exponent =>
    let shortest := Shortest.ofMagnitude significand exponent
    let magnitude :=
      if shortest.digits.isEmpty then ['0'] else placePoint shortest []
    String.ofList (signChars negative ++ magnitude)

/-- The quotient rounded to a whole number, ties to the even one. -/
def roundHalfEven (numerator denominator : Nat) : Nat :=
  let whole := numerator / denominator
  let twice := 2 * (numerator % denominator)
  if twice < denominator then whole
  else if denominator < twice then whole + 1
  else if whole % 2 = 0 then whole
  else whole + 1

/-- A number of places after the point, without a point if there are none. -/
def fixedMagnitude (places significand : Nat) (exponent : Int) : List Char :=
  let (numerator, denominator) := Binary.fraction significand exponent
  let scaled := roundHalfEven (numerator * Nat.pow 10 places) denominator
  let whole := toString (scaled / Nat.pow 10 places)
  if places = 0 then whole.toList
  else
    let rest := toString (scaled % Nat.pow 10 places)
    whole.toList ++ '.' :: (zeros (places - rest.length) ++ rest.toList)

/-- The value with `places` digits after the point. -/
def fixed (places : Nat) (value : Float) : String :=
  match Binary.decode value with
  | .notANumber => "NaN"
  | .infinite negative => String.ofList (signChars negative ++ "inf".toList)
  | .finite negative significand exponent =>
    String.ofList (signChars negative ++ fixedMagnitude places significand exponent)

end RunTriage.Decimal
