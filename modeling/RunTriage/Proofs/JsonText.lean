import Mathlib.Tactic.SplitIfs
import RunTriage.Json.Printer
import RunTriage.Json.Reader

/-!
Contract: an object of strings survives being printed and read again.

Owns:
- reading each escaped character as that character, and each quoted text as that text;
- reading the compact form of an object of strings, whose members come back sorted by name.

Does not own: numbers and nested values.
-/

namespace RunTriage.Json

/-! ## Characters -/

theorem hexValue?_hexDigit : ∀ value < 16, hexValue? (hexDigit value) = some value := by decide

theorem readEscape_control {char : Char} (isControl : char.toNat < 32) (rest : List Char) :
    readEscape ('u' :: '0' :: '0' :: hexDigit (char.toNat / 16) :: hexDigit (char.toNat % 16) ::
      rest) = some (char, rest) := by
  have high := hexValue?_hexDigit (char.toNat / 16) (by omega)
  have low := hexValue?_hexDigit (char.toNat % 16) (by omega)
  have zero : hexValue? '0' = some 0 := rfl
  have unit : char.toNat / 16 * 16 + char.toNat % 16 = char.toNat := by omega
  have noSurrogate : ¬(0xD800 ≤ char.toNat) := by omega
  have noLowSurrogate : ¬(0xDC00 ≤ char.toNat) := by omega
  simp [readEscape, readUnicode, readHex, zero, high, low, unit, noSurrogate, noLowSurrogate]

/-- A character is written by an escape that stands for it, or as it is. -/
theorem escapeChar_cases (char : Char) :
    (∃ marks, escapeChar char = '\\' :: marks ∧
        ∀ rest, readEscape (marks ++ rest) = some (char, rest)) ∨
      escapeChar char = [char] ∧ char ≠ '"' ∧ char ≠ '\\' ∧ 32 ≤ char.toNat := by
  have named (other : Char) {code : Nat} (isOther : char.toNat = code)
      (same : other.toNat = code) : char = other := Char.toNat_inj.mp (isOther.trans same.symm)
  unfold escapeChar
  split_ifs with isQuote isBackslash isNewline isReturn isTab isBackspace isFormFeed isControl
  · rw [isQuote]
    exact .inl ⟨_, rfl, fun _ => rfl⟩
  · rw [isBackslash]
    exact .inl ⟨_, rfl, fun _ => rfl⟩
  · rw [isNewline]
    exact .inl ⟨_, rfl, fun _ => rfl⟩
  · rw [isReturn]
    exact .inl ⟨_, rfl, fun _ => rfl⟩
  · rw [isTab]
    exact .inl ⟨_, rfl, fun _ => rfl⟩
  · rw [named '\x08' isBackspace rfl]
    exact .inl ⟨_, rfl, fun _ => rfl⟩
  · rw [named '\x0c' isFormFeed rfl]
    exact .inl ⟨_, rfl, fun _ => rfl⟩
  · exact .inl ⟨_, rfl, readEscape_control isControl⟩
  · exact .inr ⟨rfl, isQuote, isBackslash, by omega⟩

theorem readString_escapeChar (fuel : Nat) (char : Char) (rest taken : List Char) :
    readString (fuel + 1) (escapeChar char ++ rest) taken =
      readString fuel rest (char :: taken) := by
  obtain ⟨marks, isEscaped, isRead⟩ | ⟨isPlain, notQuote, notBackslash, notControl⟩ :=
    escapeChar_cases char
  · rw [isEscaped, List.cons_append, readString, if_neg (by decide), if_pos rfl, isRead]
  · rw [isPlain, List.singleton_append, readString, if_neg notQuote, if_neg notBackslash,
      if_neg (by omega)]

theorem readString_flatMap_escapeChar {fuel : Nat} {chars : List Char} (rest taken : List Char)
    (enough : chars.length < fuel) :
    readString fuel (chars.flatMap escapeChar ++ '"' :: rest) taken =
      some (String.ofList (taken.reverse ++ chars), rest) := by
  induction chars generalizing fuel taken with
  | nil =>
    obtain ⟨fuel, rfl⟩ := Nat.exists_eq_add_one.mpr enough
    simp [readString]
  | cons char others inductionHypothesis =>
    obtain ⟨fuel, rfl⟩ := Nat.exists_eq_add_one.mpr (Nat.zero_lt_of_lt enough)
    rw [List.flatMap_cons, List.append_assoc, readString_escapeChar,
      inductionHypothesis _ (by simpa using enough)]
    simp

theorem toList_quote (text : String) :
    (quote text).toList = '"' :: (text.toList.flatMap escapeChar ++ ['"']) :=
  String.toList_ofList

theorem length_le_toList_quote (text : String) :
    text.toList.length + 2 ≤ (quote text).toList.length := by
  have each : ∀ chars : List Char, chars.length ≤ (chars.flatMap escapeChar).length := by
    intro chars
    induction chars with
    | nil => exact Nat.le_refl _
    | cons char others inductionHypothesis =>
      have notEmpty : 1 ≤ (escapeChar char).length := by
        obtain ⟨marks, isEscaped, _⟩ | ⟨isPlain, _⟩ := escapeChar_cases char
        · simp [isEscaped]
        · simp [isPlain]
      rw [List.flatMap_cons, List.length_append, List.length_cons]
      omega
  have := each text.toList
  simp only [toList_quote, List.length_cons, List.length_append, List.length_nil]
  omega

/-! ## Objects of strings -/

/-- A quoted text is read as its text, whatever follows. -/
theorem readString_quote {fuel : Nat} (text : String) (rest : List Char)
    (enough : text.toList.length < fuel) :
    ∃ behind, (quote text).toList ++ rest = '"' :: behind ∧
      readString fuel behind [] = some (text, rest) := by
  have written : (quote text).toList ++ rest =
      '"' :: (text.toList.flatMap escapeChar ++ '"' :: rest) := by
    rw [toList_quote, List.cons_append, List.append_assoc, List.singleton_append]
  have isRead := readString_flatMap_escapeChar rest [] enough
  rw [List.reverse_nil, List.nil_append, String.ofList_toList] at isRead
  exact ⟨_, written, isRead⟩

theorem readValue_quote {fuel depth : Nat} (text : String) (rest : List Char)
    (enough : text.toList.length + 1 < fuel) :
    readValue fuel depth ((quote text).toList ++ rest) = some (.string text, rest) := by
  obtain ⟨fuel, rfl⟩ := Nat.exists_eq_add_one.mpr (Nat.zero_lt_of_lt enough)
  obtain ⟨behind, isQuoted, isRead⟩ :=
    readString_quote text rest (by omega : text.toList.length < fuel)
  rw [isQuoted, readValue]
  have noSpace : skipSpace ('"' :: behind) = '"' :: behind := rfl
  simp [noSpace, isRead]

/-- The members of an object of strings. -/
def textMembers (entries : List (String × String)) : List (String × Json) :=
  entries.map fun entry => (entry.1, .string entry.2)

/-- A member is a quoted name and a quoted text, whatever follows. -/
theorem exists_textMember {fuel : Nat} (depth : Nat) {name text : String} (behind : List Char)
    (enough : (quote name ++ ":" ++ quote text).toList.length ≤ fuel) :
    ∃ quoted valueText, (quote name ++ ":" ++ quote text).toList ++ behind = '"' :: quoted ∧
      readString fuel quoted [] = some (name, ':' :: valueText) ∧
        readValue fuel depth valueText = some (.string text, behind) := by
  have nameLength := length_le_toList_quote name
  have textLength := length_le_toList_quote text
  have colon : ":".toList = [':'] := by simp
  simp only [String.toList_append, List.length_append, List.length_cons, List.append_assoc, colon,
    List.cons_append, List.nil_append] at enough ⊢
  obtain ⟨quoted, isQuoted, isName⟩ := readString_quote name
    (':' :: ((quote text).toList ++ behind)) (by omega : name.toList.length < fuel)
  exact ⟨quoted, _, isQuoted, isName, readValue_quote text behind (by omega)⟩

theorem readMembers_comma {fuel depth : Nat} {name text : String} (rest : List Char)
    (taken : List (String × Json))
    (enough : (quote name ++ ":" ++ quote text).toList.length ≤ fuel) :
    readMembers (fuel + 1) depth ((quote name ++ ":" ++ quote text).toList ++ ',' :: rest) taken =
      readMembers fuel depth rest ((name, .string text) :: taken) := by
  obtain ⟨quoted, valueText, isQuoted, isName, isText⟩ :=
    exists_textMember depth (',' :: rest) enough
  have beforeName : skipSpace ('"' :: quoted) = '"' :: quoted := rfl
  have beforeText : skipSpace (':' :: valueText) = ':' :: valueText := rfl
  have beforeComma : skipSpace (',' :: rest) = ',' :: rest := rfl
  simp only [isQuoted, readMembers, beforeName, isName, beforeText, isText, beforeComma]

theorem readMembers_close {fuel depth : Nat} {name text : String} (rest : List Char)
    (taken : List (String × Json))
    (enough : (quote name ++ ":" ++ quote text).toList.length ≤ fuel) :
    readMembers (fuel + 1) depth ((quote name ++ ":" ++ quote text).toList ++ '\x7d' :: rest)
        taken =
      some (ofMembers ((name, .string text) :: taken).reverse, rest) := by
  obtain ⟨quoted, valueText, isQuoted, isName, isText⟩ :=
    exists_textMember depth ('\x7d' :: rest) enough
  have beforeName : skipSpace ('"' :: quoted) = '"' :: quoted := rfl
  have beforeText : skipSpace (':' :: valueText) = ':' :: valueText := rfl
  have beforeClose : skipSpace ('\x7d' :: rest) = '\x7d' :: rest := rfl
  simp only [isQuoted, readMembers, beforeName, isName, beforeText, isText, beforeClose]

theorem readMembers_textMembers (fuel depth : Nat) (entry : String × String)
    (entries : List (String × String)) (rest : List Char) (taken : List (String × Json))
    (enough : (compactMembers (textMembers (entry :: entries))).toList.length < fuel) :
    readMembers fuel depth
        ((compactMembers (textMembers (entry :: entries))).toList ++ '\x7d' :: rest) taken =
      some (ofMembers (taken.reverse ++ textMembers (entry :: entries)), rest) := by
  obtain ⟨fuel, rfl⟩ := Nat.exists_eq_add_one.mpr (Nat.zero_lt_of_lt enough)
  induction entries generalizing entry fuel taken with
  | nil =>
    have written : compactMembers (textMembers [entry]) =
        quote entry.1 ++ ":" ++ quote entry.2 := rfl
    rw [written] at enough ⊢
    rw [readMembers_close _ _ (by omega)]
    simp [textMembers]
  | cons next others inductionHypothesis =>
    have written : (compactMembers (textMembers (entry :: next :: others))).toList =
        (quote entry.1 ++ ":" ++ quote entry.2).toList ++
          ',' :: (compactMembers (textMembers (next :: others))).toList := by
      simp [textMembers, compactMembers, compact]
    rw [written] at enough ⊢
    rw [List.length_append, List.length_cons] at enough
    obtain ⟨fuel, rfl⟩ := Nat.exists_eq_add_one.mpr (by omega : 0 < fuel)
    rw [List.append_assoc, List.cons_append, readMembers_comma _ _ (by omega),
      inductionHypothesis next _ fuel (by omega)]
    simp [textMembers]

theorem toList_compactMembers_cons (entry : String × String) (entries : List (String × String)) :
    ∃ behind, (compactMembers (textMembers (entry :: entries))).toList = '"' :: behind := by
  cases entries with
  | nil => simp [textMembers, compactMembers, toList_quote]
  | cons next others => simp [textMembers, compactMembers, toList_quote]

theorem readValue_members (fuel depth : Nat) (behind : List Char) :
    readValue (fuel + 1) (depth + 1) ('\x7b' :: '"' :: behind) =
      readMembers fuel depth ('"' :: behind) [] := rfl

/-- An object of strings is read from its compact form, with its members sorted by name. -/
theorem read?_compact_textMembers (entries : List (String × String)) :
    read? (compact (.object (textMembers entries))) = some (.ofMembers (textMembers entries)) := by
  cases entries with
  | nil => rfl
  | cons entry entries =>
    have text : (compact (.object (textMembers (entry :: entries)))).toList =
        '\x7b' :: ((compactMembers (textMembers (entry :: entries))).toList ++ ['\x7d']) := by
      simp [compact]
    have members := readMembers_textMembers
      (2 * (compact (.object (textMembers (entry :: entries)))).toList.length + 1) 126 entry entries
      [] [] (by simp only [text, List.length_cons, List.length_append]; omega)
    obtain ⟨behind, isQuoted⟩ := toList_compactMembers_cons entry entries
    rw [isQuoted, List.cons_append] at members text
    have value := readValue_members
      (2 * (compact (.object (textMembers (entry :: entries)))).toList.length + 1) 126
      (behind ++ ['\x7d'])
    rw [members, ← text] at value
    rw [read?, greatestDepth, value]
    rfl

end RunTriage.Json
