import RunTriage.Decimal.Layout
import RunTriage.Json.Basic

/-!
Contract: JSON text of a value.

Owns:
- escaping of strings;
- the compact form and the indented form.

Does not own: the notation of floating-point numbers, which is
`RunTriage.Decimal.stored?`; a number without such a notation prints as null.
-/

namespace RunTriage.Json

def hexDigit (value : Nat) : Char :=
  if value < 10 then Char.ofNat (48 + value) else Char.ofNat (87 + value)

/-- Quotes, backslashes and control characters are escaped and nothing else;
five control characters have an escape of their own. -/
def escapeChar (char : Char) : List Char :=
  if char = '"' then ['\\', '"']
  else if char = '\\' then ['\\', '\\']
  else if char = '\n' then ['\\', 'n']
  else if char = '\r' then ['\\', 'r']
  else if char = '\t' then ['\\', 't']
  else if char.toNat = 8 then ['\\', 'b']
  else if char.toNat = 12 then ['\\', 'f']
  else if char.toNat < 32 then
    ['\\', 'u', '0', '0', hexDigit (char.toNat / 16), hexDigit (char.toNat % 16)]
  else [char]

/-- A string between quotes. -/
def quote (text : String) : String :=
  String.ofList ('"' :: (text.toList.flatMap escapeChar ++ ['"']))

def printFloat (value : Float) : String :=
  (Decimal.stored? value).getD "null"

mutual

/-- The form without any blanks. -/
def compact : Json → String
  | .null => "null"
  | .bool value => if value then "true" else "false"
  | .whole value => toString value
  | .float value => printFloat value
  | .string value => quote value
  | .array items => "[" ++ compactItems items ++ "]"
  | .object members => "\x7b" ++ compactMembers members ++ "\x7d"

def compactItems : List Json → String
  | [] => ""
  | [item] => compact item
  | item :: rest => compact item ++ "," ++ compactItems rest

def compactMembers : List (String × Json) → String
  | [] => ""
  | [(name, value)] => quote name ++ ":" ++ compact value
  | (name, value) :: rest => quote name ++ ":" ++ compact value ++ "," ++ compactMembers rest

end

def indentation (depth : Nat) : String :=
  String.ofList (List.replicate (2 * depth) ' ')

mutual

/-- The form with one item or member a line, each level two blanks deeper. -/
def indented (depth : Nat) : Json → String
  | .null => "null"
  | .bool value => if value then "true" else "false"
  | .whole value => toString value
  | .float value => printFloat value
  | .string value => quote value
  | .array [] => "[]"
  | .array (item :: rest) =>
    "[" ++ indentedItems (depth + 1) (item :: rest) ++ "\n" ++ indentation depth ++ "]"
  | .object [] => "\x7b\x7d"
  | .object (member :: rest) =>
    "\x7b" ++ indentedMembers (depth + 1) (member :: rest) ++ "\n" ++ indentation depth ++ "\x7d"

def indentedItems (depth : Nat) : List Json → String
  | [] => ""
  | [item] => "\n" ++ indentation depth ++ indented depth item
  | item :: rest =>
    "\n" ++ indentation depth ++ indented depth item ++ "," ++ indentedItems depth rest

def indentedMembers (depth : Nat) : List (String × Json) → String
  | [] => ""
  | [(name, value)] =>
    "\n" ++ indentation depth ++ quote name ++ ": " ++ indented depth value
  | (name, value) :: rest =>
    "\n" ++ indentation depth ++ quote name ++ ": " ++ indented depth value ++ "," ++
      indentedMembers depth rest

end

end RunTriage.Json
