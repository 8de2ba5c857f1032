/-!
Contract: which characters count as blank, and trimming by them.

Owns:
- `isBlank`, the characters with the Unicode property White_Space;
- trimming of character lists and strings at either end.

Does not own: the pattern class of blanks, which is built from the same ranges
in `RunTriage.Pattern.CharSet`.
-/

namespace RunTriage.Text

/-- The code point ranges with the property White_Space, in ascending order. -/
def blankRanges : List (Nat × Nat) :=
  [(0x09, 0x0D), (0x20, 0x20), (0x85, 0x85), (0xA0, 0xA0), (0x1680, 0x1680),
   (0x2000, 0x200A), (0x2028, 0x2029), (0x202F, 0x202F), (0x205F, 0x205F),
   (0x3000, 0x3000)]

/-- A character is blank when its code point lies in one of the ranges. -/
def isBlank (char : Char) : Bool :=
  blankRanges.any fun range => range.1 ≤ char.toNat && char.toNat ≤ range.2

/-- The text from its first character that is not blank. -/
def trimStart (chars : List Char) : List Char :=
  chars.dropWhile isBlank

/-- The text without blanks at either end. -/
def trim (text : String) : String :=
  String.ofList ((trimStart ((trimStart text.toList).reverse)).reverse)

theorem trimStart_nil : trimStart [] = [] := rfl

theorem trimStart_of_not_blank {char : Char} {rest : List Char}
    (solid : isBlank char = false) : trimStart (char :: rest) = char :: rest := by
  simp [trimStart, List.dropWhile, solid]

end RunTriage.Text
