import RunTriage.Decimal.Reader
import RunTriage.Json.Basic

/-!
Contract: reading JSON text strictly.

Owns:
- the grammar: no trailing commas, no leading zeros, no bare control characters,
  surrogate escapes only in pairs, nothing but blanks after the value;
- the limit on nesting;
- the value of numbers: whole where 64 bits hold it, else floating-point.

Does not own: the reason why a text is refused, as no caller reports one.
-/

namespace RunTriage.Json

def isSpace (char : Char) : Bool :=
  char = ' ' || char = '\n' || char = '\t' || char = '\r'

def skipSpace (chars : List Char) : List Char :=
  chars.dropWhile isSpace

/-- Arrays and objects may nest this deep. -/
def greatestDepth : Nat := 127

/-! ## Strings -/

def hexValue? (char : Char) : Option Nat :=
  if '0' ≤ char && char ≤ '9' then some (char.toNat - 48)
  else if 'a' ≤ char && char ≤ 'f' then some (char.toNat - 87)
  else if 'A' ≤ char && char ≤ 'F' then some (char.toNat - 55)
  else none

/-- Four hexadecimal digits. -/
def readHex : List Char → Option (Nat × List Char)
  | first :: second :: third :: fourth :: rest => do
    let first ← hexValue? first
    let second ← hexValue? second
    let third ← hexValue? third
    let fourth ← hexValue? fourth
    some (first * 4096 + second * 256 + third * 16 + fourth, rest)
  | _ => none

/-- The character of a `\u` escape, which for a high surrogate takes a second
escape with a low one. -/
def readUnicode (chars : List Char) : Option (Char × List Char) := do
  let (unit, rest) ← readHex chars
  if 0xDC00 ≤ unit && unit ≤ 0xDFFF then none
  else if 0xD800 ≤ unit && unit ≤ 0xDBFF then
    match rest with
    | '\\' :: 'u' :: rest =>
      let (low, rest) ← readHex rest
      if 0xDC00 ≤ low && low ≤ 0xDFFF then
        some (Char.ofNat ((unit - 0xD800) * 1024 + (low - 0xDC00) + 0x10000), rest)
      else none
    | _ => none
  else some (Char.ofNat unit, rest)

/-- The character of an escape, without its backslash. -/
def readEscape : List Char → Option (Char × List Char)
  | '"' :: rest => some ('"', rest)
  | '\\' :: rest => some ('\\', rest)
  | '/' :: rest => some ('/', rest)
  | 'b' :: rest => some ('\x08', rest)
  | 'f' :: rest => some ('\x0c', rest)
  | 'n' :: rest => some ('\n', rest)
  | 'r' :: rest => some ('\r', rest)
  | 't' :: rest => some ('\t', rest)
  | 'u' :: rest => readUnicode rest
  | _ => none

/-- A string after its opening quote; `taken` holds the characters read so far
in reverse. Every round of `fuel` takes at least one character. -/
def readString : Nat → List Char → List Char → Option (String × List Char)
  | 0, _, _ => none
  | _ + 1, [], _ => none
  | fuel + 1, char :: rest, taken =>
    if char = '"' then some (String.ofList taken.reverse, rest)
    else if char = '\\' then
      match readEscape rest with
      | some (meant, rest) => readString fuel rest (meant :: taken)
      | none => none
    else if char.toNat < 32 then none
    else readString fuel rest (char :: taken)

/-! ## Numbers -/

def digitsOf (chars : List Char) : List Nat :=
  (chars.takeWhile Char.isDigit).map fun char => char.toNat - 48

/-- The exponent after its mark, as sign and digits. -/
def readExponent (chars : List Char) : Option (Bool × List Nat × List Char) :=
  let (negative, rest) :=
    match chars with
    | '+' :: rest => (false, rest)
    | '-' :: rest => (true, rest)
    | _ => (false, chars)
  let digits := digitsOf rest
  if digits.isEmpty then none else some (negative, digits, rest.drop digits.length)

/-- An exponent beyond 31 bits can only give zero or a value out of range. -/
def scaleBy (negative : Bool) (significand : Nat) (start : Int)
    (negativeExponent : Bool) (digits : List Nat) : Option Float :=
  let exponent : Nat := digits.foldl (fun value digit => value * 10 + digit) 0
  if exponent ≤ Nat.pow 2 31 - 1 then
    let signed : Int := if negativeExponent then -(exponent : Int) else (exponent : Int)
    Decimal.scaled? negative significand (start + signed)
  else if significand ≠ 0 && !negativeExponent then none
  else some (if negative then -0.0 else 0.0)

/-- A value without fraction and exponent. Minus zero is a floating-point value. -/
def wholeNumber (negative : Bool) (significand : Nat) : Json :=
  if !negative then .whole significand
  else if 1 ≤ significand && significand ≤ Nat.pow 2 63 then .whole (-(significand : Int))
  else .float (-(UInt64.ofNat significand).toFloat)

def readExponentPart (negative : Bool) (significand : Nat) (start : Int) (chars : List Char) :
    Option (Json × List Char) := do
  let (negativeExponent, digits, rest) ← readExponent chars
  let value ← scaleBy negative significand start negativeExponent digits
  some (.float value, rest)

/-- What follows the whole part of a number: nothing, an exponent, or a fraction
and perhaps an exponent. -/
def readNumberTail (negative : Bool) (significand overflow : Nat) (chars : List Char) :
    Option (Json × List Char) :=
  match chars with
  | '.' :: rest =>
    let digits := digitsOf rest
    if digits.isEmpty then none
    else
      let (significand, taken) := Decimal.takeFraction digits significand 0
      let start : Int := (overflow : Int) - taken
      match rest.drop digits.length with
      | 'e' :: rest => readExponentPart negative significand start rest
      | 'E' :: rest => readExponentPart negative significand start rest
      | rest => (Decimal.scaled? negative significand start).map fun value => (.float value, rest)
  | 'e' :: rest => readExponentPart negative significand overflow rest
  | 'E' :: rest => readExponentPart negative significand overflow rest
  | _ =>
    if overflow = 0 then some (wholeNumber negative significand, chars)
    else (Decimal.scaled? negative significand overflow).map fun value => (.float value, chars)

/-- A number after its sign. -/
def readNumber (negative : Bool) (chars : List Char) : Option (Json × List Char) :=
  match digitsOf chars with
  | [] => none
  | 0 :: _ :: _ => none
  | digits =>
    let (significand, overflow) := Decimal.takeWhole digits 0
    readNumberTail negative significand overflow (chars.drop digits.length)

/-! ## Values -/

/-- The text after an expected word. -/
def readWord (word : List Char) (chars : List Char) : Option (List Char) :=
  if word.isPrefixOf chars then some (chars.drop word.length) else none

mutual

/-- A value, with blanks before it skipped. `depth` counts the levels that may
still be opened. Every round of `fuel` takes at least one character. -/
def readValue : Nat → Nat → List Char → Option (Json × List Char)
  | 0, _, _ => none
  | fuel + 1, depth, chars =>
    match skipSpace chars with
    | [] => none
    | '"' :: rest => (readString fuel rest []).map fun (text, rest) => (.string text, rest)
    | '[' :: rest =>
      match depth with
      | 0 => none
      | depth + 1 =>
        match skipSpace rest with
        | ']' :: rest => some (.array [], rest)
        | rest => readItems fuel depth rest []
    | '\x7b' :: rest =>
      match depth with
      | 0 => none
      | depth + 1 =>
        match skipSpace rest with
        | '\x7d' :: rest => some (.object [], rest)
        | rest => readMembers fuel depth rest []
    | '-' :: rest => readNumber true rest
    | 'n' :: rest => (readWord ['u', 'l', 'l'] rest).map fun rest => (.null, rest)
    | 't' :: rest => (readWord ['r', 'u', 'e'] rest).map fun rest => (.bool true, rest)
    | 'f' :: rest => (readWord ['a', 'l', 's', 'e'] rest).map fun rest => (.bool false, rest)
    | char :: rest => readNumber false (char :: rest)

/-- The items of an array from the next one on. -/
def readItems : Nat → Nat → List Char → List Json → Option (Json × List Char)
  | 0, _, _, _ => none
  | fuel + 1, depth, chars, taken =>
    match readValue fuel depth chars with
    | none => none
    | some (item, rest) =>
      match skipSpace rest with
      | ',' :: rest => readItems fuel depth rest (item :: taken)
      | ']' :: rest => some (.array (item :: taken).reverse, rest)
      | _ => none

/-- The members of an object from the next one on. -/
def readMembers : Nat → Nat → List Char → List (String × Json) → Option (Json × List Char)
  | 0, _, _, _ => none
  | fuel + 1, depth, chars, taken =>
    match skipSpace chars with
    | '"' :: rest =>
      match readString fuel rest [] with
      | none => none
      | some (name, rest) =>
        match skipSpace rest with
        | ':' :: rest =>
          match readValue fuel depth rest with
          | none => none
          | some (value, rest) =>
            match skipSpace rest with
            | ',' :: rest => readMembers fuel depth rest ((name, value) :: taken)
            | '\x7d' :: rest => some (ofMembers ((name, value) :: taken).reverse, rest)
            | _ => none
        | _ => none
    | _ => none

end

/-- The value of a text, if the text is JSON. -/
def read? (text : String) : Option Json :=
  let chars := text.toList
  match readValue (2 * chars.length + 2) greatestDepth chars with
  | some (value, rest) => if (skipSpace rest).isEmpty then some value else none
  | none => none

end RunTriage.Json
